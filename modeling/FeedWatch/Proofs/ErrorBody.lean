import FeedWatch.Api.ErrorBody
import FeedWatch.Proofs.Occurrences
import FeedWatch.Proofs.ScopeLists

namespace FeedWatch

namespace Api

open Text

-- The first message element of a body holds this, without the blanks around it, and it is more
-- than blanks.
def HoldsMessage (body message : String) : Prop :=
  ∃ before rest inside after, Text.IsFirstCut "<message>".toList body.toList before rest ∧
    Text.IsFirstCut "</message>".toList rest inside after ∧
    message.toList = Text.trim inside ∧ message ≠ ""

theorem errorMessage?_eq_some_iff {body message : String} :
    errorMessage? body = some message ↔ HoldsMessage body message := by
  simp only [errorMessage?, HoldsMessage, ← Text.cut?_eq_some_iff, Option.bind_eq_bind,
    Option.bind_eq_some_iff, Prod.exists]
  constructor
  · rintro ⟨before, rest, hstart, inside, after, hend, hmessage⟩
    split at hmessage <;> rename_i hblank
    · exact absurd hmessage nofun
    · obtain rfl := Option.some.inj hmessage
      refine ⟨before, rest, inside, after, hstart, hend, by simp, fun hempty => hblank ?_⟩
      simpa using hempty
  · rintro ⟨before, rest, inside, after, hstart, hend, hmessage, hempty⟩
    refine ⟨before, rest, hstart, inside, after, hend, ?_⟩
    rw [← hmessage, if_neg]
    · simp
    · simpa using hempty

section Elements

variable {body before inside after message : String}

-- The body around its first message element. It begins with the first start mark, and it ends with
-- the first end mark after that.
structure HasElement (body before inside after : String) : Prop where
  text : body = before ++ "<message>" ++ inside ++ "</message>" ++ after
  before : ¬"<message>".toList <:+: before.toList
  inside : ¬"</message>".toList <:+: inside.toList

theorem startsOnce_start : StartsOnce "<message>".toList :=
  ⟨'<', "message>".toList, rfl, by decide⟩

theorem startsOnce_end : StartsOnce "</message>".toList :=
  ⟨'<', "/message>".toList, rfl, by decide⟩

theorem hasElement_iff : HasElement body before inside after ↔ ∃ rest,
    IsFirstCut "<message>".toList body.toList before.toList rest ∧
      IsFirstCut "</message>".toList rest inside.toList after.toList := by
  simp only [isFirstCut_iff startsOnce_start, isFirstCut_iff startsOnce_end]
  constructor
  · rintro ⟨rfl, hbefore, hinside⟩
    refine ⟨_, ⟨?_, hbefore⟩, rfl, hinside⟩
    simp only [String.toList_append, List.append_assoc]
  · rintro ⟨rest, ⟨hbody, hbefore⟩, rfl, hinside⟩
    refine ⟨String.toList_inj.mp ?_, hbefore, hinside⟩
    simp only [hbody, String.toList_append, List.append_assoc]

theorem HasElement.unique {before' inside' after' : String}
    (h : HasElement body before inside after) (h' : HasElement body before' inside' after') :
    before = before' ∧ inside = inside' ∧ after = after' := by
  obtain ⟨rest, hstart, hend⟩ := hasElement_iff.mp h
  obtain ⟨rest', hstart', hend'⟩ := hasElement_iff.mp h'
  obtain ⟨hbefore, rfl⟩ := hstart.unique hstart'
  obtain ⟨hinside, hafter⟩ := hend.unique hend'
  exact ⟨String.toList_inj.mp hbefore, String.toList_inj.mp hinside, String.toList_inj.mp hafter⟩

theorem holdsMessage_iff : HoldsMessage body message ↔ ∃ before inside after,
    HasElement body before inside after ∧ IsTrimmed inside.toList message.toList ∧
      message ≠ "" := by
  constructor
  · rintro ⟨before, rest, inside, after, hstart, hend, hmessage, hne⟩
    refine ⟨String.ofList before, String.ofList inside, String.ofList after,
      hasElement_iff.mpr ⟨rest, ?_, ?_⟩, trim_eq_iff.mp ?_, hne⟩
    · simpa only [String.toList_ofList] using hstart
    · simpa only [String.toList_ofList] using hend
    · rw [String.toList_ofList, hmessage]
  · rintro ⟨before, inside, after, helement, htrimmed, hne⟩
    obtain ⟨rest, hstart, hend⟩ := hasElement_iff.mp helement
    exact ⟨_, rest, _, _, hstart, hend, htrimmed.trim_eq.symm, hne⟩

theorem errorMessage?_eq_none_iff : errorMessage? body = none ↔
    ∀ before inside after, HasElement body before inside after → AllBlank inside.toList := by
  constructor
  · intro hnone before inside after helement
    by_contra hblank
    have hholds : HoldsMessage body (String.ofList (trim inside.toList)) := by
      refine holdsMessage_iff.mpr ⟨before, inside, after, helement, ?_, ?_⟩
      · rw [String.toList_ofList]
        exact isTrimmed_trim inside.toList
      · rwa [Ne, String.ofList_eq_empty_iff, trim_eq_nil_iff]
    cases hnone.symm.trans (errorMessage?_eq_some_iff.mpr hholds)
  · intro hblank
    cases hmessage : errorMessage? body with
    | none => rfl
    | some message =>
      obtain ⟨before, inside, after, helement, htrimmed, hne⟩ :=
        holdsMessage_iff.mp (errorMessage?_eq_some_iff.mp hmessage)
      have hnil : [] = message.toList :=
        (trim_eq_nil_iff.mpr (hblank _ _ _ helement)).symm.trans htrimmed.trim_eq
      exact absurd (String.toList_eq_nil_iff.mp hnil.symm) hne

end Elements

section Offsets

-- The same by offsets in bytes: `none` where a text would be cut within a character.
def errorMessageAtOffsets? (body : String) : Option (Option String) := do
  let some start := offset? "<message>" body | return none
  let first := start + "<message>".utf8ByteSize
  let rest ← slice? body first body.utf8ByteSize
  let some length := offset? "</message>" rest | return none
  let inside ← slice? body first (length + first)
  let message := trim inside.toList
  return if message.isEmpty then none else some (String.ofList message)

theorem errorMessageAtOffsets?_eq (body : String) :
    errorMessageAtOffsets? body = some (errorMessage? body) := by
  unfold errorMessageAtOffsets? errorMessage?
  cases hcut : cut? messageStart body.toList with
  | none =>
    rw [offset?_of_cut?_eq_none (by decide) hcut]
    rfl
  | some cut =>
    obtain ⟨before, rest⟩ := cut
    have hstart : IsFirstCut "<message>".toList body.toList before rest := isFirstCut_of_cut? hcut
    have hrest : (String.ofList rest).toList = rest := String.toList_ofList
    rw [offset?_of_isFirstCut (by decide) hstart]
    simp only [hstart.slice?_eq, Option.bind_eq_bind, Option.bind_some]
    cases hcut : cut? messageEnd rest with
    | none =>
      have hnone : cut? "</message>".toList (String.ofList rest).toList = none := by
        rw [hrest]
        exact hcut
      rw [offset?_of_cut?_eq_none (by decide) hnone]
      rfl
    | some cut =>
      obtain ⟨inside, after⟩ := cut
      have hend : IsFirstCut "</message>".toList (String.ofList rest).toList inside after := by
        rw [hrest]
        exact isFirstCut_of_cut? hcut
      have hinside : slice? body ((String.ofList before).utf8ByteSize + "<message>".utf8ByteSize)
          ((String.ofList inside).utf8ByteSize +
            ((String.ofList before).utf8ByteSize + "<message>".utf8ByteSize)) =
          some (String.ofList inside) := by
        rw [hstart.text_eq, hend.text_eq, ← String.append_assoc, ← String.utf8ByteSize_append,
          Nat.add_comm (String.ofList inside).utf8ByteSize]
        exact slice?_append _ _ _
      rw [offset?_of_isFirstCut (by decide) hend]
      simp only [hinside, Option.bind_some, String.toList_ofList]
      rfl

end Offsets

-- The message is what the first element holds, without the blanks around it. There is none without an
-- element, or if the element holds blanks only. No other element is the first one, and offsets find
-- the same message.
structure ReadsFirstElement (body : String) : Prop where
  found : ∀ message, errorMessage? body = some message ↔ ∃ before inside after,
    HasElement body before inside after ∧ IsTrimmed inside.toList message.toList ∧ message ≠ ""
  missing : errorMessage? body = none ↔
    ∀ before inside after, HasElement body before inside after → AllBlank inside.toList
  unique : ∀ before inside after before' inside' after',
    HasElement body before inside after → HasElement body before' inside' after' →
      before = before' ∧ inside = inside' ∧ after = after'
  offsets : errorMessageAtOffsets? body = some (errorMessage? body)

theorem errorBody_readsFirstElement (body : String) : ReadsFirstElement body := by
  constructor
  case found => exact fun _ => errorMessage?_eq_some_iff.trans holdsMessage_iff
  case missing => exact errorMessage?_eq_none_iff
  case unique => exact fun _ _ _ _ _ _ => HasElement.unique
  case offsets => exact errorMessageAtOffsets?_eq body

-- A start mark within the element belongs to the message.
example : errorMessage? "é<message> a<message>ü </message></message>" = some "a<message>ü" := by
  decide +kernel

end Api

end FeedWatch
