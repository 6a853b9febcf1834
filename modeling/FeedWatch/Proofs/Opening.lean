import Mathlib.Data.List.Induction
import FeedWatch.Proofs.Opened

namespace FeedWatch

-- Of several descriptors with one id the last counts.
def Counts (descriptors : List Descriptor) (d : Descriptor) : Prop :=
  ∃ before after, descriptors = before ++ d :: after ∧ ∀ d' ∈ after, d'.id ≠ d.id

theorem counts_concat {descriptors : List Descriptor} {d d' : Descriptor} :
    Counts (descriptors ++ [d']) d ↔ d = d' ∨ Counts descriptors d ∧ d'.id ≠ d.id := by
  constructor
  · rintro ⟨before, after, hsplit, hafter⟩
    cases after using List.reverseRecOn with
    | nil => exact .inl (List.append_inj_right' hsplit rfl |> List.singleton_inj.mp).symm
    | append_singleton after last =>
      have hsplit : descriptors ++ [d'] = (before ++ d :: after) ++ [last] := by simpa using hsplit
      obtain ⟨hfront, hlast⟩ := List.append_inj' hsplit rfl
      obtain rfl := List.singleton_inj.mp hlast
      refine .inr ⟨⟨before, after, hfront, fun d'' hd => ?_⟩, ?_⟩
      · exact hafter d'' (List.mem_append_left _ hd)
      · exact hafter d' (List.mem_append_right _ List.mem_cons_self)
  · rintro (rfl | ⟨⟨before, after, rfl, hafter⟩, hlast⟩)
    · exact ⟨descriptors, [], rfl, nofun⟩
    · refine ⟨before, after ++ [d'], by simp, fun d'' hd => ?_⟩
      obtain hd | hd := List.mem_append.mp hd
      · exact hafter d'' hd
      · exact List.mem_singleton.mp hd ▸ hlast

namespace Directory

variable {id : ProducerId} {e : Entry}

theorem getElem?_ofDescriptors {descriptors : List Descriptor} {fallback : String} :
    (ofDescriptors descriptors fallback).entries[id]? = some e ↔
      ∃ d, Counts descriptors d ∧ d.id = id ∧ e = .ofDescriptor d := by
  induction descriptors using List.reverseRecOn with
  | nil =>
    simp only [ofDescriptors, List.foldl_nil, Std.ExtTreeMap.getElem?_empty, reduceCtorEq, false_iff]
    rintro ⟨d, ⟨before, after, hsplit, -⟩, -⟩
    exact absurd hsplit (by simp)
  | append_singleton descriptors d ih =>
    have hconcat : (ofDescriptors (descriptors ++ [d]) fallback).entries =
        (ofDescriptors descriptors fallback).entries.insert d.id (.ofDescriptor d) := by
      simp only [ofDescriptors, List.foldl_append, List.foldl_cons, List.foldl_nil]
    rw [hconcat, Std.ExtTreeMap.getElem?_insert]
    simp only [Std.compare_eq_iff_eq]
    split <;> rename_i hid
    · subst hid
      constructor
      · rintro hlast
        exact ⟨d, counts_concat.mpr (.inl rfl), rfl, (Option.some.inj hlast).symm⟩
      · rintro ⟨d', hcounts, hsame, rfl⟩
        obtain rfl | ⟨-, hother⟩ := counts_concat.mp hcounts
        · rfl
        · exact absurd hsame.symm hother
    · rw [ih]
      constructor
      · rintro ⟨d', hcounts, rfl, rfl⟩
        exact ⟨d', counts_concat.mpr (.inr ⟨hcounts, hid⟩), rfl, rfl⟩
      · rintro ⟨d', hcounts, rfl, rfl⟩
        obtain rfl | ⟨hcounts, -⟩ := counts_concat.mp hcounts
        · exact absurd rfl hid
        · exact ⟨d', hcounts, rfl, rfl⟩

end Directory

-- All elements have a result, or the first one without any fails the whole list.
theorem mapM_cases {α β ε : Type} (f : α → Except ε β) (l : List α) :
    (∃ results, l.mapM f = .ok results ∧ ∀ a ∈ l, ∃ b ∈ results, f a = .ok b) ∨
      ∃ a ∈ l, ∃ e, f a = .error e ∧ l.mapM f = .error e := by
  induction l with
  | nil => exact .inl ⟨[], rfl, nofun⟩
  | cons a l ih =>
    rw [List.mapM_cons]
    cases ha : f a with
    | error e => exact .inr ⟨a, List.mem_cons_self, e, ha, rfl⟩
    | ok b =>
      obtain ⟨results, hl, hresults⟩ | ⟨a', ha', e, he, hl⟩ := ih
      · refine .inl ⟨b :: results, by rw [hl]; rfl, fun a' ha' => ?_⟩
        obtain rfl | ha' := List.mem_cons.mp ha'
        · exact ⟨b, List.mem_cons_self, ha⟩
        · obtain ⟨b', hb', hf⟩ := hresults a' ha'
          exact ⟨b', List.mem_cons_of_mem b hb', hf⟩
      · exact .inr ⟨a', List.mem_cons_of_mem a ha', e, he, by rw [hl]; rfl⟩

theorem Entry.producer_cases (e : Entry) :
    (∃ scopes p, e.descriptor.scopes = .ok scopes ∧ e.producer = .ok p) ∨
      ∃ source, e.descriptor.scopes = .error source ∧
        e.producer = .error (.unknownScope e.descriptor.id source) := by
  unfold producer
  cases e.descriptor.scopes with
  | ok scopes => exact .inl ⟨scopes, _, rfl, rfl⟩
  | error source => exact .inr ⟨source, rfl, rfl⟩

-- The producers to be kept are listed if the scopes of each make sense.
theorem Directory.producers_cases (d : Directory) (keep : Entry → Bool) :
    (∃ listed, d.producers keep = .ok listed ∧
      ∀ (id : ProducerId) (e : Entry), d.entries[id]? = some e → keep e = true →
        id ∈ listed.map Prod.fst ∧ ∃ scopes, e.descriptor.scopes = .ok scopes) ∨
      ∃ (id : ProducerId) (e : Entry) (source : ParseError), d.entries[id]? = some e ∧
        keep e = true ∧ e.descriptor.scopes = .error source ∧
        d.producers keep = .error (.unknownScope e.descriptor.id source) := by
  have hkept (id : ProducerId) (e : Entry) :
      (id, e) ∈ d.entries.toList.filter (fun x => keep x.2) ↔
        d.entries[id]? = some e ∧ keep e = true := by
    rw [List.mem_filter, Std.ExtTreeMap.mem_toList_iff_getElem?_eq_some]
  obtain ⟨listed, hok, hlisted⟩ | ⟨⟨id, e⟩, hmem, err, hfail, herr⟩ :=
    mapM_cases (fun x => Except.map (x.1, ·) (Entry.producer x.2))
      (d.entries.toList.filter fun x => keep x.2)
  · refine .inl ⟨listed, hok, fun id e he hkeep => ?_⟩
    obtain ⟨p, hp, hread⟩ := hlisted (id, e) ((hkept id e).mpr ⟨he, hkeep⟩)
    obtain ⟨scopes, producer, hscopes, hproducer⟩ | ⟨source, -, hproducer⟩ := e.producer_cases
    · simp only [hproducer] at hread
      obtain rfl := Except.ok.inj hread
      exact ⟨List.mem_map_of_mem hp, scopes, hscopes⟩
    · simp only [hproducer] at hread
      cases hread
  · obtain ⟨he, hkeep⟩ := (hkept id e).mp hmem
    obtain ⟨scopes, producer, -, hproducer⟩ | ⟨source, hscopes, hproducer⟩ := e.producer_cases
    · simp only [hproducer] at hfail
      cases hfail
    · simp only [hproducer] at hfail
      obtain rfl := Except.error.inj hfail
      exact .inr ⟨id, e, source, he, hkeep, hscopes, herr⟩

theorem mem_insertIfNew_foldl {α β : Type} {l : List (ProducerId × α)} {b : β}
    {map : Std.ExtTreeMap ProducerId β} {id : ProducerId} :
    id ∈ l.foldl (fun map p => map.insertIfNew p.1 b) map ↔ id ∈ map ∨ id ∈ l.map Prod.fst := by
  induction l generalizing map with
  | nil => simp
  | cons p l ih =>
    rw [List.foldl_cons, ih, Std.ExtTreeMap.mem_insertIfNew]
    simp only [Std.compare_eq_iff_eq, List.map_cons, List.mem_cons]
    grind

-- A manager opens if all active producers can be read, and then tracks them.
theorem Manager.start_cases {m : Manager} {t : Moment} (hmem : t.outage = Outage.none)
    (hcreated : m.phase = .created) :
    (∃ m', m.start t = .ok m' ∧ m'.phase = .opened ∧
      ∀ (id : ProducerId) (e : Entry), m.directory.entries[id]? = some e →
        e.descriptor.active = true →
          id ∈ m'.trackers ∧ ∃ scopes, e.descriptor.scopes = .ok scopes) ∨
      ∃ (id : ProducerId) (e : Entry) (source : ParseError),
        m.directory.entries[id]? = some e ∧ e.descriptor.active = true ∧
        e.descriptor.scopes = .error source ∧
        m.start t = .error (.directory (.unknownScope e.descriptor.id source)) := by
  have hguard : t.outage.guard .active ⟨0⟩ m.directory.active =
      m.directory.producers (·.descriptor.active) := by
    rw [hmem]
    rfl
  simp only [start, hcreated, hguard]
  obtain ⟨listed, hok, hlisted⟩ | ⟨id, e, source, he, hactive, hscopes, hfail⟩ :=
    m.directory.producers_cases (·.descriptor.active)
  · rw [hok]
    refine .inl ⟨_, rfl, rfl, fun id e he hactive => ?_⟩
    obtain ⟨hid, hscopes⟩ := hlisted id e he hactive
    exact ⟨mem_insertIfNew_foldl.mpr (.inr hid), hscopes⟩
  · rw [hfail]
    exact .inr ⟨id, e, source, he, hactive, hscopes, rfl⟩

theorem World.start_of_error {w : World} {e : RecoveryError}
    (h : w.service.start w.moment = .error e) : w.step .start = some w := by
  simp only [step, h]

section Openings

variable {config : Config} {descriptors : List Descriptor} {fallback : String} {ids : RequestIds}
  {manager : Manager} {now : Instant} {past : List Step} {w : World} {d : Descriptor}

-- What the feed said of a producer last stays.
theorem Run.descriptor_iff
    (hmanager : Manager.ofConfig config (.ofDescriptors descriptors fallback) ids = .ok manager)
    (h : Run (.ofManager manager now) past w) {id : ProducerId} :
    w.manager.directory.entries[id]?.map Entry.descriptor = some d ↔
      Counts descriptors d ∧ d.id = id := by
  have hfresh : (World.ofManager manager now).IsFresh :=
    ⟨config, descriptors, fallback, ids, manager, now, hmanager, rfl⟩
  have hdirectory : manager.directory = .ofDescriptors descriptors fallback := by
    cases hv : config.validate with
    | error e => simp [Manager.ofConfig, hv, bind, Except.bind] at hmanager
    | ok =>
      simp only [Manager.ofConfig, hv, bind, Except.bind, pure, Except.pure,
        Except.ok.injEq] at hmanager
      exact hmanager ▸ rfl
  have hsame : w.manager.directory.entries[id]?.map Entry.descriptor =
      (Directory.ofDescriptors descriptors fallback).entries[id]?.map Entry.descriptor :=
    hdirectory ▸ (h.sameDescription hfresh.isValid id).descriptor
  rw [hsame, Option.map_eq_some_iff]
  constructor
  · rintro ⟨e, he, rfl⟩
    obtain ⟨d, hcounts, hid, rfl⟩ := Directory.getElem?_ofDescriptors.mp he
    exact ⟨hcounts, hid⟩
  · rintro ⟨hcounts, hid⟩
    exact ⟨_, Directory.getElem?_ofDescriptors.mpr ⟨d, hcounts, hid, rfl⟩, rfl⟩

-- A manager that was not opened before opens exactly if the scopes of all active producers
-- make sense, and then tracks each of them. One producer whose scopes do not keeps it from
-- opening: no other is tracked either, and nothing changes.
theorem Run.opens_iff
    (hmanager : Manager.ofConfig config (.ofDescriptors descriptors fallback) ids = .ok manager)
    (h : Run (.ofManager manager now) past w) (hcreated : w.manager.phase = .created) :
    ((∃ service, w.service.start w.moment = .ok service ∧ service.manager.phase = .opened ∧
        ∀ d, Counts descriptors d → d.active = true → d.id ∈ service.manager.trackers) ↔
      ∀ d, Counts descriptors d → d.active = true → ∃ scopes, d.scopes = .ok scopes) ∧
    ∀ e, w.service.start w.moment = .error e → w.step .start = some w ∧
      ∃ d source, Counts descriptors d ∧ d.active = true ∧ d.scopes = .error source ∧
        e = .directory (.unknownScope d.id source) := by
  obtain ⟨m, hm, hopened, htracked⟩ | ⟨id, e, source, he, hactive, hscopes, hfail⟩ :=
    Manager.start_cases (t := w.moment) rfl hcreated
  · have hstart : w.service.start w.moment =
        .ok { manager := m, stream := some { capacity := m.config.capacity.toNat } } := by
      have hservice : w.service.manager.start w.moment = .ok m := hm
      simp only [Service.start, hservice, bind, Except.bind, pure, Except.pure]
    have hlisted (d : Descriptor) (hcounts : Counts descriptors d) (hactive : d.active = true) :
        d.id ∈ m.trackers ∧ ∃ scopes, d.scopes = .ok scopes := by
      obtain ⟨e, he, rfl⟩ := Option.map_eq_some_iff.mp
        ((h.descriptor_iff hmanager).mpr ⟨hcounts, rfl⟩)
      exact htracked _ e he hactive
    refine ⟨iff_of_true ⟨_, hstart, hopened, fun d hd hactive => (hlisted d hd hactive).1⟩
      fun d hd hactive => (hlisted d hd hactive).2, fun e herr => ?_⟩
    cases hstart.symm.trans herr
  · have hstart : w.service.start w.moment =
        .error (.directory (.unknownScope e.descriptor.id source)) := by
      have hservice : w.service.manager.start w.moment = _ := hfail
      simp only [Service.start, hservice, bind, Except.bind]
    obtain ⟨hcounts, -⟩ := (h.descriptor_iff hmanager).mp (congrArg (Option.map _) he)
    refine ⟨iff_of_false ?_ ?_, fun err herr => ⟨World.start_of_error herr, ?_⟩⟩
    · rintro ⟨service, hok, -⟩
      cases hstart.symm.trans hok
    · intro hall
      obtain ⟨scopes, hok⟩ := hall e.descriptor hcounts hactive
      cases hscopes.symm.trans hok
    · obtain rfl := Except.error.inj (hstart.symm.trans herr)
      exact ⟨e.descriptor, source, hcounts, hactive, hscopes, rfl⟩

end Openings

-- A producer of virtual odds, which no scope covers.
def virtualOdds : Descriptor := { liveOdds with id := ⟨7⟩, name := "VO", scope := "virtual" }

def virtualManager : Manager where
  config := {}
  directory := .ofDescriptors [liveOdds, virtualOdds] ""
  ids := ⟨0, 1⟩

-- It keeps the other one from being tracked.
theorem Run.virtual_keeps_shut : ∃ w, Run (.ofManager virtualManager 600000) [] w ∧
    liveOdds.scopes = .ok [.live] ∧ w.step .start = some w ∧ w.manager.status? liveOdds.id = none ∧
    ¬∃ service, w.service.start w.moment = .ok service ∧ service.manager.phase = .opened ∧
      ∀ d, Counts [liveOdds, virtualOdds] d → d.active = true →
        d.id ∈ service.manager.trackers := by
  have hrun : Run (.ofManager virtualManager 600000) [] (.ofManager virtualManager 600000) := .start
  have hmanager : Manager.ofConfig {} (.ofDescriptors [liveOdds, virtualOdds] "") ⟨0, 1⟩ =
      .ok virtualManager := rfl
  obtain ⟨hopens, hfails⟩ := Run.opens_iff hmanager hrun rfl
  have hvirtual : Counts [liveOdds, virtualOdds] virtualOdds := ⟨[liveOdds], [], rfl, nofun⟩
  refine ⟨_, hrun, rfl, (hfails _ rfl).1, rfl, fun hopen => ?_⟩
  obtain ⟨scopes, hscopes⟩ := hopens.mp hopen virtualOdds hvirtual rfl
  cases hscopes

end FeedWatch
