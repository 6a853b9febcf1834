import FeedWatch.Proofs.Manager
import FeedWatch.Proofs.View

namespace FeedWatch

section Maps

variable {κ ι ν : Type} {cmp : κ → κ → Ordering} [Std.TransCmp cmp] [Std.LawfulEqCmp cmp]

theorem map_insert (t : Std.ExtTreeMap κ ι cmp) (k : κ) (v : ι) (f : ι → ν) :
    (t.insert k v).map (fun _ v => f v) = (t.map fun _ v => f v).insert k (f v) := by
  ext j : 1
  simp only [Std.ExtTreeMap.getElem?_map, Std.ExtTreeMap.getElem?_insert]
  split <;> rfl

theorem map_erase (t : Std.ExtTreeMap κ ι cmp) (k : κ) (f : ι → ν) :
    (t.erase k).map (fun _ v => f v) = (t.map fun _ v => f v).erase k := by
  ext j : 1
  simp only [Std.ExtTreeMap.getElem?_map, Std.ExtTreeMap.getElem?_erase]
  split <;> rfl

end Maps

namespace View

variable {V : View} {d : Directory} {m : Manager} {t : Moment} {id : ProducerId}

def directory (V : View) (d : Directory) : Directory where
  entries := d.entries.map fun _ e => V.entry e
  fallback := V.fallback d.fallback

def manager (V : View) (m : Manager) : Manager := { m with directory := V.directory m.directory }

theorem listing_directory : (V.directory d).listing id = V.listing (d.listing id) := by
  unfold Directory.listing directory listing
  rw [Std.ExtTreeMap.getElem?_map]

theorem put_directory (l : Listing) :
    (V.directory d).put id (V.listing l) = V.directory (d.put id l) := by
  obtain ⟨i, fallback, entry⟩ := l
  cases entry with
  | none => rfl
  | some e => exact congrArg (Directory.mk · (V.fallback d.fallback)) (map_insert d.entries id e _).symm

theorem hold_manager {α : Type} {f : α → α} {h : Handler α} (hh : h.Matches V f h) :
    (V.manager m).hold t id h = ((m.hold t id h).1.map f, V.manager (m.hold t id h).2) := by
  have hdesk : (V.manager m).desk id = V.desk (m.desk id) :=
    congrArg (fun l => Desk.mk ⟨m.trackers[id]?.getD {}, l⟩ m.ids) listing_directory
  have hput (d : Desk) : (V.manager m).putDesk id (V.desk d) = V.manager (m.putDesk id d) :=
    congrArg (fun directory => { m.putDesk id d with directory }) (put_directory d.tracked.listing)
  have hrun := hh (m.scene t) (m.desk id)
  unfold Manager.hold
  rw [hdesk, show (V.manager m).scene t = m.scene t from rfl, hrun]
  cases h (m.scene t) (m.desk id) with
  | ok a d => exact congrArg (Except.ok (f a), ·) (hput d)
  | error e d => exact congrArg (Except.error e, ·) (hput d)

-- An answer that says nothing of the record is the same.
theorem hold_manager_same {α : Type} {h : Handler α} (hh : h.Matches V (fun a => a) h) :
    (V.manager m).hold t id h = ((m.hold t id h).1, V.manager (m.hold t id h).2) := by
  rw [hold_manager hh]
  cases (m.hold t id h).1 <;> rfl

theorem visit_manager (v : Visit) :
    (V.manager m).visit t id v =
      ((m.visit t id v).1.mapProducer V.record, V.manager (m.visit t id v).2) := by
  have hheld : (((V.manager m).hold t id v.start).1.toOption.getD {},
        ((V.manager m).hold t id v.start).2) =
      (((m.hold t id v.start).1.toOption.getD {}).mapProducer V.record,
        V.manager (m.hold t id v.start).2) := by
    rw [hold_manager v.start_matches]
    cases (m.hold t id v.start).1 <;> rfl
  have htrackers : (V.manager m).trackers = m.trackers := rfl
  unfold Manager.visit
  rw [htrackers]
  cases v with
  | replayEnded request interest =>
    cases m.trackers[id]? with
    | none => rfl
    | some tracker => exact hheld
  | _ => exact hheld

theorem finish_manager (rest : Rest) :
    (V.manager m).finish t id rest =
      ((m.finish t id rest).1, V.manager (m.finish t id rest).2) := by
  unfold Manager.finish
  split
  · rfl
  · rw [hold_manager_same rest.finish_matches]

theorem callEvent_manager (kind : Api.EventReplayKind) (event : Urn) :
    (V.manager m).callEvent kind id event =
      ((m.callEvent kind id event).1, V.manager (m.callEvent kind id event).2) := rfl

theorem enterEvent_manager (call : EventCall) :
    (V.manager m).enterEvent t call =
      ((m.enterEvent t call).1, V.manager (m.enterEvent t call).2) := by
  unfold Manager.enterEvent
  refine hold_manager_same ((Handler.track_matches _).bind fun _ => ?_)
  refine (Handler.ask_matches fun _ _ => map_producer_tracked V.name_record).bind fun name => ?_
  cases name with
  | ok name => exact Handler.pure_matches _
  | error e => exact (Handler.track_matches _).bind fun _ => Handler.throw_matches _

theorem eventPosted_manager (r : EventRequest) (answer : Except TransportError Unit) :
    (V.manager m).eventPosted t r answer =
      ((m.eventPosted t r answer).1, V.manager (m.eventPosted t r answer).2) := by
  cases answer with
  | ok => rfl
  | error source =>
    unfold Manager.eventPosted
    rw [hold_manager_same (Handler.track_matches _)]

end View

end FeedWatch
