import FeedWatch.Api.Path
import Mathlib.Data.Set.Function
import Std.Data.String.ToInt

namespace FeedWatch

namespace Text

section Cuts

variable {p : Char → Prop}

theorem append_inj_of_head {a b x y : List Char} (ha : ∀ c ∈ a, p c) (hb : ∀ c ∈ b, p c)
    (hx : ∀ c ∈ x.head?, ¬p c) (hy : ∀ c ∈ y.head?, ¬p c) (h : a ++ x = b ++ y) :
    a = b ∧ x = y := by
  induction a generalizing b with
  | nil =>
    cases b with
    | nil => exact ⟨rfl, h⟩
    | cons c b =>
      have hc : x.head? = some c := by rw [← List.nil_append x, h]; rfl
      exact absurd (hb c List.mem_cons_self) (hx c hc)
  | cons c a ih =>
    cases b with
    | nil =>
      have hc : y.head? = some c := by rw [← List.nil_append y, ← h]; rfl
      exact absurd (ha c List.mem_cons_self) (hy c hc)
    | cons d b =>
      obtain ⟨rfl, hrest⟩ := List.cons.inj h
      obtain ⟨rfl, hxy⟩ := ih (fun e he => ha e (List.mem_cons_of_mem c he))
        (fun e he => hb e (List.mem_cons_of_mem c he)) hrest
      exact ⟨rfl, hxy⟩

variable {a b x y : String}

-- Texts that end where the first character of another kind stands are the same if what they begin
-- is.
theorem append_inj_of_first (ha : ∀ c ∈ a.toList, p c) (hb : ∀ c ∈ b.toList, p c)
    (hx : ∀ c ∈ x.toList.head?, ¬p c) (hy : ∀ c ∈ y.toList.head?, ¬p c) (h : a ++ x = b ++ y) :
    a = b ∧ x = y := by
  have hlist : a.toList ++ x.toList = b.toList ++ y.toList := by
    rw [← String.toList_append, h, String.toList_append]
  obtain ⟨hab, hxy⟩ := append_inj_of_head ha hb hx hy hlist
  exact ⟨String.toList_inj.mp hab, String.toList_inj.mp hxy⟩

-- So are those that begin after the last character of another kind, if what they end is.
theorem append_inj_of_last (hx : ∀ c ∈ x.toList, p c) (hy : ∀ c ∈ y.toList, p c)
    (ha : ∀ c ∈ a.toList.getLast?, ¬p c) (hb : ∀ c ∈ b.toList.getLast?, ¬p c)
    (h : a ++ x = b ++ y) : a = b ∧ x = y := by
  have hreverse : x.toList.reverse ++ a.toList.reverse = y.toList.reverse ++ b.toList.reverse := by
    rw [← List.reverse_append, ← List.reverse_append, ← String.toList_append, h,
      String.toList_append]
  obtain ⟨hxy, hab⟩ := append_inj_of_head (p := p) (by simpa using hx) (by simpa using hy)
    (by simpa using ha) (by simpa using hb) hreverse
  exact ⟨String.toList_inj.mp (List.reverse_inj.mp hab),
    String.toList_inj.mp (List.reverse_inj.mp hxy)⟩

end Cuts

theorem toString_text (s : String) : toString s = s := rfl

theorem isDigit_of_mem_repr {n : Nat} {c : Char} (h : c ∈ n.repr.toList) : c.isDigit = true :=
  Nat.isDigit_of_mem_toDigits (by decide) (by decide) (Nat.toList_repr ▸ h)

def IsSignOrDigit (c : Char) : Prop := c = '-' ∨ c.isDigit = true

theorem isSignOrDigit_of_mem_repr {n : Int} {c : Char} (h : c ∈ n.repr.toList) :
    IsSignOrDigit c := by
  rw [Int.repr_eq_if] at h
  split at h
  · exact .inr (isDigit_of_mem_repr h)
  · rw [String.toList_append, List.mem_append] at h
    obtain hsign | hdigit := h
    · exact .inl (by simpa using hsign)
    · exact .inr (isDigit_of_mem_repr hdigit)

end Text

namespace Urn

-- The first two parts hold no colon, so that the colons show where they end.
structure IsPlain (urn : Urn) : Prop where
  scheme : ':' ∉ urn.scheme.toList
  kind : ':' ∉ urn.kind.toList

theorem text_eq (urn : Urn) :
    urn.text = urn.scheme ++ (":" ++ (urn.kind ++ (":" ++ urn.id.toNat.repr))) := by
  simp only [text, String.append_assoc]
  rfl

theorem text_injOn : Set.InjOn text {urn | urn.IsPlain} := by
  intro u hu v hv h
  rw [text_eq, text_eq] at h
  obtain ⟨hscheme, h⟩ := Text.append_inj_of_first (p := (· ≠ ':'))
    (fun c hc => ne_of_mem_of_not_mem hc hu.scheme) (fun c hc => ne_of_mem_of_not_mem hc hv.scheme)
    (by simp) (by simp) h
  obtain ⟨hkind, h⟩ := Text.append_inj_of_first (p := (· ≠ ':'))
    (fun c hc => ne_of_mem_of_not_mem hc hu.kind) (fun c hc => ne_of_mem_of_not_mem hc hv.kind)
    (by simp) (by simp) ((String.append_right_inj _).mp h)
  have hid := UInt64.toNat_inj.mp (Nat.repr_inj.mp ((String.append_right_inj _).mp h))
  cases u
  cases v
  simp_all

-- A colon in one of them could stand for either.
example : text ⟨"od:match", "a", 1⟩ = text ⟨"od", "match:a", 1⟩ := rfl

end Urn

namespace Api

section Queries

variable {request request' : RequestId} {node node' : Option Int32} {after after' : Instant}

def afterQuery (after : Instant) : String := if after = 0 then "" else s!"&after={after.toInt}"

theorem afterQuery_of_ne (h : after ≠ 0) : afterQuery after = "&after=" ++ after.toInt.repr :=
  if_neg h

theorem nodeQuery_some (n : Int32) : nodeQuery (some n) = "&node_id=" ++ n.toInt.repr := rfl

theorem head?_afterQuery (after : Instant) : ∀ c ∈ (afterQuery after).toList.head?, c = '&' := by
  by_cases hafter : after = 0
  · simp [hafter, afterQuery]
  · simp [afterQuery_of_ne hafter]

theorem head?_nodeQuery (node : Option Int32) (after : Instant) :
    ∀ c ∈ (nodeQuery node ++ afterQuery after).toList.head?, c = '&' := by
  cases node with
  | none => simpa [nodeQuery] using head?_afterQuery after
  | some n => simp [nodeQuery_some]

theorem afterQuery_inj (h : afterQuery after = afterQuery after') : after = after' := by
  by_cases hafter : after = 0
  · by_cases hafter' : after' = 0
    · rw [hafter, hafter']
    · rw [hafter, afterQuery_of_ne hafter'] at h
      exact absurd (congrArg String.toList h) (by simp [afterQuery])
  · by_cases hafter' : after' = 0
    · rw [hafter', afterQuery_of_ne hafter] at h
      exact absurd (congrArg String.toList h) (by simp [afterQuery])
    · rw [afterQuery_of_ne hafter, afterQuery_of_ne hafter', String.append_right_inj] at h
      exact Int64.toInt_inj.mp (Int.repr_inj.mp h)

theorem nodeQuery_ne_afterQuery (n : Int32) (after after' : Instant) :
    nodeQuery (some n) ++ afterQuery after ≠ afterQuery after' := by
  intro h
  have hlist := congrArg String.toList h
  by_cases hafter : after' = 0
  · simp [nodeQuery_some, afterQuery, hafter] at hlist
  · simp [nodeQuery_some, afterQuery_of_ne hafter] at hlist

theorem nodeQuery_inj
    (h : nodeQuery node ++ afterQuery after = nodeQuery node' ++ afterQuery after') :
    node = node' ∧ after = after' := by
  have hend (after : Instant) : ∀ c ∈ (afterQuery after).toList.head?, ¬Text.IsSignOrDigit c := by
    intro c hc
    rw [head?_afterQuery after c hc]
    unfold Text.IsSignOrDigit
    decide
  cases node with
  | none =>
    cases node' with
    | none => exact ⟨rfl, afterQuery_inj (by simpa [nodeQuery] using h)⟩
    | some n' =>
      exact absurd h.symm (by simpa [nodeQuery] using nodeQuery_ne_afterQuery n' after' after)
  | some n =>
    cases node' with
    | none => exact absurd h (by simpa [nodeQuery] using nodeQuery_ne_afterQuery n after after')
    | some n' =>
      rw [nodeQuery_some, nodeQuery_some, String.append_assoc, String.append_assoc,
        String.append_right_inj] at h
      obtain ⟨hnode, hafter⟩ := Text.append_inj_of_first
        (fun c hc => Text.isSignOrDigit_of_mem_repr hc)
        (fun c hc => Text.isSignOrDigit_of_mem_repr hc) (hend after) (hend after') h
      rw [Int32.toInt_inj.mp (Int.repr_inj.mp hnode), afterQuery_inj hafter]
      exact ⟨rfl, rfl⟩

-- The last segment of a path: there is no slash in it.
def lastSegment (request : RequestId) (node : Option Int32) (after : Instant) : String :=
  "initiate_request?request_id=" ++ (request.text ++ (nodeQuery node ++ afterQuery after))

theorem lastSegment_inj (h : lastSegment request node after = lastSegment request' node' after') :
    request = request' ∧ node = node' ∧ after = after' := by
  have hend (node : Option Int32) (after : Instant) :
      ∀ c ∈ (nodeQuery node ++ afterQuery after).toList.head?, ¬c.isDigit = true := by
    intro c hc
    rw [head?_nodeQuery node after c hc]
    decide
  unfold lastSegment at h
  obtain ⟨hrequest, hrest⟩ := Text.append_inj_of_first
    (fun c hc => Text.isDigit_of_mem_repr hc) (fun c hc => Text.isDigit_of_mem_repr hc)
    (hend node after) (hend node' after') ((String.append_right_inj _).mp h)
  have hvalue := UInt32.toNat_inj.mp (Nat.repr_inj.mp hrequest)
  exact ⟨RequestId.ext hvalue, nodeQuery_inj hrest⟩

theorem slash_not_mem_lastSegment (request : RequestId) (node : Option Int32) (after : Instant) :
    '/' ∉ (lastSegment request node after).toList := by
  have hrequest : '/' ∉ request.text.toList := fun h =>
    absurd (Text.isDigit_of_mem_repr h) (by decide)
  have hint (n : Int) : '/' ∉ n.repr.toList := fun h =>
    absurd (Text.isSignOrDigit_of_mem_repr h) (by unfold Text.IsSignOrDigit; decide)
  have hnode : '/' ∉ (nodeQuery node).toList := by
    cases node with
    | none => simp [nodeQuery]
    | some n => simp [nodeQuery_some, hint]
  have hafter : '/' ∉ (afterQuery after).toList := by
    by_cases hzero : after = 0
    · simp [hzero, afterQuery]
    · simp [afterQuery_of_ne hzero, hint]
  unfold lastSegment
  simp only [String.toList_append, List.mem_append, hrequest, hnode, hafter, or_false]
  decide

end Queries

theorem recoveryPath_eq (producer : String) (request : RequestId) (node : Option Int32)
    (after : Instant) : recoveryPath producer request node after =
      "/" ++ (producer ++ "/recovery") ++ "/" ++ lastSegment request node after := by
  have hslash : "/recovery/initiate_request?request_id=" =
      "/recovery" ++ ("/" ++ "initiate_request?request_id=") := by simp
  unfold recoveryPath lastSegment afterQuery
  simp only [Text.toString_text, String.append_assoc, hslash]

theorem eventPath_eq (kind : EventReplayKind) (producer : String) (event : Urn)
    (request : RequestId) (node : Option Int32) : eventPath kind producer event request node =
      "/" ++ (producer ++ ("/" ++ (kind.folder ++ ("/events/" ++ event.text)))) ++ "/" ++
        lastSegment request node 0 := by
  have hslash : "/initiate_request?request_id=" = "/" ++ "initiate_request?request_id=" := by simp
  unfold eventPath lastSegment afterQuery
  simp only [Text.toString_text, String.append_assoc, hslash, if_true, String.append_empty]

-- A request to send messages again.
inductive ReplayRequest where
  | full (request : RequestId) (node : Option Int32) (after : Instant)
  | ofEvent (kind : EventReplayKind) (event : Urn) (request : RequestId) (node : Option Int32)

namespace ReplayRequest

def path (producer : String) : ReplayRequest → String
  | full request node after => recoveryPath producer request node after
  | ofEvent kind event request node => eventPath kind producer event request node

-- Its event, if it is for one, can be told from the text.
def IsPlain : ReplayRequest → Prop
  | full .. => True
  | ofEvent _ event .. => event.IsPlain

-- What stands between the name of the producer and the last segment.
def folder : ReplayRequest → String
  | full .. => "/recovery"
  | ofEvent kind event .. => "/" ++ (kind.folder ++ ("/events/" ++ event.text))

def segment : ReplayRequest → String
  | full request node after => lastSegment request node after
  | ofEvent _ _ request node => lastSegment request node 0

theorem path_eq (producer : String) (r : ReplayRequest) :
    r.path producer = "/" ++ (producer ++ r.folder) ++ "/" ++ r.segment := by
  cases r with
  | full request node after => exact recoveryPath_eq producer request node after
  | ofEvent kind event request node => exact eventPath_eq kind producer event request node

theorem slash_not_mem_segment (r : ReplayRequest) : '/' ∉ r.segment.toList := by
  cases r with
  | full request node after => exact slash_not_mem_lastSegment request node after
  | ofEvent kind event request node => exact slash_not_mem_lastSegment request node 0

-- The last slash of a path stands before its last segment.
theorem path_inj {producer producer' : String} {r r' : ReplayRequest}
    (h : r.path producer = r'.path producer') :
    producer ++ r.folder = producer' ++ r'.folder ∧ r.segment = r'.segment := by
  have hslash (s : String) : ∀ c ∈ (s ++ "/").toList.getLast?, ¬c ≠ '/' := by simp
  rw [path_eq, path_eq] at h
  obtain ⟨hfront, hsegment⟩ := Text.append_inj_of_last (p := (· ≠ '/'))
    (fun c hc => ne_of_mem_of_not_mem hc (slash_not_mem_segment r))
    (fun c hc => ne_of_mem_of_not_mem hc (slash_not_mem_segment r')) (hslash _) (hslash _) h
  have hfolder := (String.append_left_inj _).mp hfront
  exact ⟨(String.append_right_inj _).mp hfolder, hsegment⟩

theorem recovery_ne_folder (kind : EventReplayKind) (rest : String) :
    "/recovery" ≠ "/" ++ (kind.folder ++ rest) := by
  intro h
  have hlist := congrArg String.toList h
  cases kind <;> simp [EventReplayKind.folder] at hlist

theorem ofEvent_folder_inj {kind kind' : EventReplayKind} {event event' : Urn}
    (hevent : event.IsPlain) (hevent' : event'.IsPlain)
    (h : "/" ++ (kind.folder ++ ("/events/" ++ event.text)) =
      "/" ++ (kind'.folder ++ ("/events/" ++ event'.text))) : kind = kind' ∧ event = event' := by
  have hkind : kind = kind' := by
    have hlist := congrArg String.toList h
    cases kind <;> cases kind' <;> simp [EventReplayKind.folder] at hlist ⊢
  subst hkind
  have htext := (String.append_right_inj _).mp ((String.append_right_inj _).mp
    ((String.append_right_inj _).mp h))
  exact ⟨rfl, Urn.text_injOn hevent hevent' htext⟩

theorem path_injOn (producer : String) : Set.InjOn (path producer) {r | r.IsPlain} := by
  intro r hr r' hr' h
  obtain ⟨hfront, hsegment⟩ := path_inj h
  have hfolder := (String.append_right_inj _).mp hfront
  cases r with
  | full request node after =>
    cases r' with
    | full request' node' after' =>
      obtain ⟨rfl, rfl, rfl⟩ := lastSegment_inj hsegment
      rfl
    | ofEvent => exact absurd hfolder (recovery_ne_folder _ _)
  | ofEvent kind event request node =>
    cases r' with
    | full => exact absurd hfolder.symm (recovery_ne_folder _ _)
    | ofEvent kind' event' request' node' =>
      obtain ⟨rfl, rfl⟩ := ofEvent_folder_inj hr hr' hfolder
      obtain ⟨rfl, rfl, -⟩ := lastSegment_inj hsegment
      rfl

end ReplayRequest

-- The path of a request tells the request, once the name of the producer is known. That of a full
-- recovery tells the name, too, whatever is in it.
theorem paths_tell_requests :
    (∀ producer, Set.InjOn (ReplayRequest.path producer) {r | r.IsPlain}) ∧
      ∀ (producer producer' : String) (request request' : RequestId) (node node' : Option Int32)
        (after after' : Instant),
        recoveryPath producer request node after = recoveryPath producer' request' node' after' →
          producer = producer' ∧ request = request' ∧ node = node' ∧ after = after' := by
  refine ⟨ReplayRequest.path_injOn, ?_⟩
  intro producer producer' request request' node node' after after' h
  have hpath : (ReplayRequest.full request node after).path producer =
      (ReplayRequest.full request' node' after').path producer' := h
  obtain ⟨hfront, hsegment⟩ := ReplayRequest.path_inj hpath
  exact ⟨(String.append_left_inj _).mp hfront, lastSegment_inj hsegment⟩

end Api

end FeedWatch
