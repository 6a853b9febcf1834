import FeedWatch.Json.Feed
import FeedWatch.Proofs.UrnRoundTrip

namespace FeedWatch

namespace Json

section Values

variable {α : Type} {read : Json → Option α} {write : α → Json}

theorem uint32?_int (n : UInt32) : (Json.int n.toNat).uint32? = some n := by
  have hsmall := n.toNat_lt
  have hin : (0 : Int) ≤ n.toNat ∧ (n.toNat : Int) < 0x100000000 := by omega
  simp only [uint32?, intIn?, if_pos hin, Option.map_some, Int.toNat_natCast, UInt32.ofNat_toNat]

theorem int32?_int (n : Int32) : (Json.int n.toInt).int32? = some n := by
  have hin : -0x80000000 ≤ n.toInt ∧ n.toInt < 0x80000000 := ⟨n.le_toInt, n.toInt_lt⟩
  simp only [int32?, intIn?, if_pos hin, Option.map_some, Int32.ofInt_toInt]

theorem int64?_int (n : Int64) : (Json.int n.toInt).int64? = some n := by
  have hin : -0x8000000000000000 ≤ n.toInt ∧ n.toInt < 0x8000000000000000 :=
    ⟨n.le_toInt, n.toInt_lt⟩
  simp only [int64?, intIn?, if_pos hin, Option.map_some, Int64.ofInt_toInt]

theorem list?_map (h : ∀ a, read (write a) = some a) (l : List α) :
    list? read (.arr (l.map write)) = some l := by
  have hmap : (l.map write).mapM read = some l := by
    induction l with
    | nil => rfl
    | cons a l ih => simp [h, ih]
  exact hmap

-- A value that is there must not be written as null.
theorem nullable?_ofNullable (h : ∀ a, read (write a) = some a) (hnull : ∀ a, write a ≠ .null)
    (o : Option α) : nullable? read (ofNullable write o) = some o := by
  cases o with
  | none => rfl
  | some a =>
    have hread : nullable? read (write a) = (read (write a)).map some := by
      cases hw : write a with
      | null => exact absurd hw (hnull a)
      | _ => rfl
    rw [ofNullable, hread, h a]
    rfl

end Values

namespace Reading

variable {α β : Type} {fields : List (String × Json)} {name : String} {j : Json}

-- The value that a record with these fields is read as, so far.
def Finds (fields : List (String × Json)) (reading : Reading α) (a : α) : Prop :=
  reading (.named fields) = some (a, .named fields)

theorem Finds.pure (a : α) : Finds fields (pure a) a := rfl

theorem Finds.bind {reading : Reading α} {next : α → Reading β} {a : α} {b : β}
    (h : Finds fields reading a) (hnext : Finds fields (next a) b) :
    Finds fields (reading >>= next) b :=
  Option.bind_eq_some_iff.mpr ⟨(a, .named fields), h, hnext⟩

theorem Finds.required {read : Json → Option α} {a : α} (h : fields.lookup name = some j)
    (hread : read j = some a) : Finds fields (Reading.required name read) a := by
  simp only [Finds, Reading.required, Fields.next, h, hread, Option.map_some]

theorem Finds.optional {read : Json → Option α} {a : Option α} (h : fields.lookup name = some j)
    (hread : nullable? read j = some a) : Finds fields (Reading.optional name read) a := by
  simp only [Finds, Reading.optional, Fields.next, h, hread, Option.map_some]

theorem Finds.record? {reading : Reading α} {a : α} (h : Finds fields reading a) :
    Json.record? reading (.obj fields) = some a := by
  simp only [Json.record?, fields?, Option.bind_eq_bind, Option.bind_some]
  rw [h]
  rfl

-- What holds of every value that is read, from whatever JSON.
def Ensures (reading : Reading α) (P : α → Prop) : Prop :=
  ∀ fields a rest, reading fields = some (a, rest) → P a

theorem Ensures.pure {P : α → Prop} {a : α} (h : P a) : Ensures (pure a) P := by
  rintro fields a' rest hread
  obtain ⟨rfl, -⟩ := Prod.mk.inj (Option.some.inj hread)
  exact h

theorem Ensures.failure {P : α → Prop} : Ensures (failure : Reading α) P := by
  rintro fields a rest hread
  cases hread

theorem Ensures.bind {reading : Reading α} {next : α → Reading β} {P : α → Prop} {Q : β → Prop}
    (h : Ensures reading P) (hnext : ∀ a, P a → Ensures (next a) Q) :
    Ensures (reading >>= next) Q := by
  rintro fields b rest hread
  obtain ⟨⟨a, between⟩, ha, hb⟩ := Option.bind_eq_some_iff.mp hread
  exact hnext a (h fields a between ha) between b rest hb

theorem Ensures.trivial (reading : Reading α) : Ensures reading fun _ => True :=
  fun _ _ _ _ => True.intro

theorem Ensures.required {read : Json → Option α} {P : α → Prop}
    (h : ∀ j a, read j = some a → P a) : Ensures (Reading.required name read) P := by
  rintro fields a rest hread
  unfold Reading.required at hread
  split at hread
  · obtain ⟨a', ha', hpair⟩ := Option.map_eq_some_iff.mp hread
    obtain ⟨rfl, -⟩ := Prod.mk.inj hpair
    exact h _ _ ha'
  · exact absurd hread nofun

theorem Ensures.record? {reading : Reading α} {P : α → Prop} (h : Ensures reading P) {a : α}
    (ha : Json.record? reading j = some a) : P a := by
  simp only [Json.record?, Option.bind_eq_bind, Option.bind_eq_some_iff] at ha
  obtain ⟨fields, -, ⟨a', rest⟩, hread, ha⟩ := ha
  split at ha
  · obtain rfl := Option.some.inj ha
    exact h fields _ rest hread
  · exact absurd ha nofun

end Reading

end Json

open Json.Reading

theorem ProducerId.ofJson?_toJson (id : ProducerId) : ofJson? id.toJson = some id := by
  rw [ofJson?, toJson, Json.uint32?_int]
  rfl

theorem RequestId.ofJson?_toJson (id : RequestId) : ofJson? id.toJson = some id := by
  rw [ofJson?, toJson, Json.uint32?_int]
  rfl

theorem Instant.ofJson?_toJson (t : Instant) : Instant.ofJson? (Instant.toJson t) = some t :=
  Json.int64?_int t

theorem Scope.read?_toJson (form : Json.WordForm) (scope : Scope) :
    read? form scope.toJson = some scope := by
  cases scope <;> rfl

theorem StatusReason.read?_toJson (form : Json.WordForm) (reason : StatusReason) :
    read? form reason.toJson = some reason := by
  cases reason <;> rfl

theorem Urn.ofJson?_toJson {urn : Urn} (h : urn.IsWritable) : ofJson? urn.toJson = some urn := by
  simp [ofJson?, toJson, Json.str?, parse_text_iff.mpr h, Except.toOption]

theorem Urn.isWritable_of_ofJson? {j : Json} {urn : Urn} (h : ofJson? j = some urn) :
    urn.IsWritable := by
  obtain ⟨s, -, hread⟩ := Option.bind_eq_some_iff.mp h
  cases hparse : parse s with
  | error e => simp [hparse, Except.toOption] at hread
  | ok urn' =>
    simp only [hparse, Except.toOption, Option.some.injEq] at hread
    exact hread ▸ isWritable_of_parse hparse

theorem Stamp.ofJson?_toJson (stamp : Stamp) : ofJson? stamp.toJson = some stamp := by
  refine Finds.record? ?_
  refine .bind (.required rfl (Instant.ofJson?_toJson stamp.created)) ?_
  refine .bind (.required rfl (Instant.ofJson?_toJson stamp.sent)) ?_
  refine .bind (.required rfl (Instant.ofJson?_toJson stamp.received)) ?_
  refine .bind (.required rfl (Instant.ofJson?_toJson stamp.published)) ?_
  exact .pure _

theorem Attempt.ofJson?_toJson (a : Attempt) : ofJson? a.toJson = some a := by
  refine Finds.record? ?_
  refine .bind (.required rfl (Instant.ofJson?_toJson a.after)) ?_
  refine .bind (.required rfl (Instant.ofJson?_toJson a.requestedAt)) ?_
  refine .bind (.required rfl (RequestId.ofJson?_toJson a.request)) ?_
  refine .bind (.required rfl rfl) ?_
  refine .bind (.optional rfl (Json.nullable?_ofNullable Json.int32?_int nofun a.node)) ?_
  exact .pure _

theorem Producer.read?_toJson (form : Json.WordForm) (p : Producer) :
    read? form p.toJson = some p := by
  refine Finds.record? ?_
  refine .bind (.required rfl (ProducerId.ofJson?_toJson p.id)) ?_
  refine .bind (.required rfl rfl) ?_
  refine .bind (.required rfl rfl) ?_
  refine .bind (.required rfl rfl) ?_
  refine .bind (.required rfl rfl) ?_
  refine .bind (.required rfl rfl) ?_
  refine .bind (.required rfl rfl) ?_
  refine .bind (.required rfl (Json.list?_map (Scope.read?_toJson form) p.scopes)) ?_
  refine .bind (.required rfl (Json.uint32?_int p.windowMinutes)) ?_
  refine .bind (.required rfl (Instant.ofJson?_toJson p.lastMessage)) ?_
  refine .bind (.required rfl (Instant.ofJson?_toJson p.lastProcessed)) ?_
  refine .bind (.required rfl (Instant.ofJson?_toJson p.lastAlive)) ?_
  refine .bind (.required rfl (Instant.ofJson?_toJson p.recoveryFrom)) ?_
  refine .bind (.optional rfl
    (Json.nullable?_ofNullable Attempt.ofJson?_toJson nofun p.lastAttempt)) ?_
  exact .pure _

namespace Notification

-- The name of an event is written as its text.
def IsWritable : Notification → Prop
  | statusChange _ => True
  | eventReplayed replay => replay.event.IsWritable

theorem ofJson?_toJson {n : Notification} (h : n.IsWritable) : ofJson? n.toJson = some n := by
  cases n with
  | statusChange change =>
    refine Finds.record? ?_
    refine .bind (.required (a := "ProducerStatus") rfl rfl) ?_
    rw [if_pos rfl]
    refine .bind (.required rfl (Producer.read?_toJson .tagged change.producer)) ?_
    refine .bind (.required rfl (Stamp.ofJson?_toJson change.stamp)) ?_
    refine .bind (.required rfl rfl) ?_
    refine .bind (.required rfl rfl) ?_
    refine .bind (.required rfl (StatusReason.read?_toJson .tagged change.reason)) ?_
    exact .pure _
  | eventReplayed replay =>
    refine Finds.record? ?_
    refine .bind (.required (a := "EventRecovery") rfl rfl) ?_
    rw [if_neg (by decide), if_pos rfl]
    refine .bind (.required rfl (Producer.read?_toJson .tagged replay.producer)) ?_
    refine .bind (.required rfl (Stamp.ofJson?_toJson replay.stamp)) ?_
    refine .bind (.required rfl (Urn.ofJson?_toJson h)) ?_
    refine .bind (.required rfl (RequestId.ofJson?_toJson replay.request)) ?_
    exact .pure _

-- What was read has a name that was read.
theorem isWritable_of_ofJson? {j : Json} {n : Notification} (h : ofJson? j = some n) :
    n.IsWritable := by
  refine Ensures.record? ?_ h
  refine .bind (.trivial _) fun label _ => ?_
  split
  · refine .bind (.trivial _) fun producer _ => ?_
    refine .bind (.trivial _) fun stamp _ => ?_
    refine .bind (.trivial _) fun isDown _ => ?_
    refine .bind (.trivial _) fun isDelayed _ => ?_
    refine .bind (.trivial _) fun reason _ => ?_
    exact .pure True.intro
  · split
    · refine .bind (.trivial _) fun producer _ => ?_
      refine .bind (.trivial _) fun stamp _ => ?_
      refine .bind (.required fun _ _ => Urn.isWritable_of_ofJson?) fun event hevent => ?_
      refine .bind (.trivial _) fun request _ => ?_
      exact .pure hevent
    · exact .failure

-- A notification survives being written and read back if the name of its event does, and so does
-- whatever was read from JSON.
theorem json_roundTrips (n : Notification) :
    (ofJson? n.toJson = some n ↔ n.IsWritable) ∧
      ∀ j, ofJson? j = some n → ofJson? n.toJson = some n :=
  ⟨⟨isWritable_of_ofJson?, ofJson?_toJson⟩, fun _ h => ofJson?_toJson (isWritable_of_ofJson? h)⟩

end Notification

end FeedWatch
