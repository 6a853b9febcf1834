import FeedWatch.Proofs.UrnText
import FeedWatch.Scope
import Mathlib.Data.List.TakeWhile

namespace FeedWatch

namespace Text

section Trimming

variable {s t before after : List Char}

def AllBlank (s : List Char) : Prop := ∀ c ∈ s, isBlank c = true

-- The text neither begins nor ends with a blank.
structure IsTight (s : List Char) : Prop where
  first : ∀ c ∈ s.head?, isBlank c = false
  last : ∀ c ∈ s.getLast?, isBlank c = false

-- The second text is the first one without the blanks around it.
structure IsTrimmed (s t : List Char) : Prop where
  around : ∃ before after, AllBlank before ∧ AllBlank after ∧ s = before ++ t ++ after
  tight : IsTight t

theorem trimStart_of_allBlank (h : AllBlank s) : trimStart s = [] :=
  List.dropWhile_eq_nil_iff.mpr h

theorem trimStart_append (h : AllBlank before) (t : List Char) :
    trimStart (before ++ t) = trimStart t :=
  List.dropWhile_append_of_pos h

theorem trimStart_of_first {c : Char} (h : isBlank c = false) (t : List Char) :
    trimStart (c :: t) = c :: t :=
  List.dropWhile_cons_of_neg (by simp [h])

theorem trimEnd_eq (s : List Char) : trimEnd s = (trimStart s.reverse).reverse := rfl

theorem exists_trimStart (s : List Char) :
    ∃ before, AllBlank before ∧ s = before ++ trimStart s ∧
      ∀ c ∈ (trimStart s).head?, isBlank c = false := by
  induction s with
  | nil => exact ⟨[], nofun, rfl, nofun⟩
  | cons c s ih =>
    cases hc : isBlank c with
    | true =>
      obtain ⟨before, hbefore, hs, hfirst⟩ := ih
      have htrim : trimStart (c :: s) = trimStart s := List.dropWhile_cons_of_pos hc
      rw [htrim]
      exact ⟨c :: before, List.forall_mem_cons.mpr ⟨hc, hbefore⟩, congrArg (c :: ·) hs, hfirst⟩
    | false =>
      rw [trimStart_of_first hc]
      refine ⟨[], nofun, rfl, ?_⟩
      rintro d ⟨⟩
      exact hc

-- The same from the other end. What the text begins with stays.
theorem exists_trimEnd (s : List Char) :
    ∃ after, AllBlank after ∧ s = trimEnd s ++ after ∧
      (∀ c ∈ (trimEnd s).getLast?, isBlank c = false) := by
  obtain ⟨before, hbefore, hs, hfirst⟩ := exists_trimStart s.reverse
  refine ⟨before.reverse, fun c hc => hbefore c (List.mem_reverse.mp hc), ?_, ?_⟩
  · rw [trimEnd_eq, ← List.reverse_append, ← hs, List.reverse_reverse]
  · rwa [trimEnd_eq, List.getLast?_reverse]

theorem isTrimmed_trim (s : List Char) : IsTrimmed s (trim s) := by
  obtain ⟨before, hbefore, hs, hfirst⟩ := exists_trimStart s
  obtain ⟨after, hafter, hstart, hlast⟩ := exists_trimEnd (trimStart s)
  refine ⟨⟨before, after, hbefore, hafter, ?_⟩, ?_, hlast⟩
  · rw [trim, List.append_assoc, ← hstart, ← hs]
  · intro c hc
    apply hfirst c
    have hhead : (trimEnd (trimStart s)).head? = some c := hc
    rw [hstart, List.head?_append, hhead]
    rfl

theorem IsTrimmed.trim_eq (h : IsTrimmed s t) : trim s = t := by
  obtain ⟨⟨before, after, hbefore, hafter, rfl⟩, hfirst, hlast⟩ := h
  have hafter' : AllBlank after.reverse := fun c hc => hafter c (List.mem_reverse.mp hc)
  rw [trim, List.append_assoc, trimStart_append hbefore, trimEnd_eq]
  cases t with
  | nil =>
    rw [List.nil_append, trimStart_of_allBlank hafter]
    rfl
  | cons c t =>
    rw [List.cons_append, trimStart_of_first (hfirst c rfl), ← List.cons_append,
      List.reverse_append, trimStart_append hafter']
    obtain ⟨d, rest, hreverse⟩ := List.exists_cons_of_ne_nil (l := (c :: t).reverse) (by simp)
    have hd : isBlank d = false := by
      apply hlast d
      rw [← List.head?_reverse, hreverse]
      rfl
    rw [hreverse, trimStart_of_first hd, ← hreverse, List.reverse_reverse]

theorem trim_eq_iff : trim s = t ↔ IsTrimmed s t := by
  constructor
  · rintro rfl
    exact isTrimmed_trim s
  · exact IsTrimmed.trim_eq

theorem trim_eq_nil_iff : trim s = [] ↔ AllBlank s := by
  rw [trim_eq_iff]
  constructor
  · rintro ⟨⟨before, after, hbefore, hafter, rfl⟩, -⟩ c hc
    rw [List.append_nil, List.mem_append] at hc
    exact hc.elim (hbefore c) (hafter c)
  · exact fun h => ⟨⟨s, [], h, nofun, by simp⟩, nofun, nofun⟩

end Trimming

section Cuts

variable {separator : Char} {s : List Char} {pieces : List (List Char)}

-- The pieces are what stands between the separators.
structure IsCut (separator : Char) (s : List Char) (pieces : List (List Char)) : Prop where
  ne : pieces ≠ []
  text : s = [separator].intercalate pieces
  separator_not_mem : ∀ piece ∈ pieces, separator ∉ piece

theorem separator_not_mem_of_mem_segments {piece : List Char} (h : piece ∈ segments separator s) :
    separator ∉ piece := by
  induction s generalizing piece with
  | nil =>
    obtain rfl := List.mem_singleton.mp h
    exact List.not_mem_nil
  | cons c rest ih =>
    rw [segments] at h
    by_cases hc : c = separator
    · rw [if_pos hc] at h
      obtain rfl | h := List.mem_cons.mp h
      · exact List.not_mem_nil
      · exact ih h
    · rw [if_neg hc] at h
      cases hsegments : segments separator rest with
      | nil =>
        have hlength := length_segments separator rest
        simp [hsegments] at hlength
      | cons first others =>
        rw [hsegments] at h ih
        obtain rfl | h := List.mem_cons.mp h
        · exact List.not_mem_cons_of_ne_of_not_mem (Ne.symm hc) (ih List.mem_cons_self)
        · exact ih (List.mem_cons_of_mem _ h)

theorem segments_eq_iff : segments separator s = pieces ↔ IsCut separator s pieces := by
  constructor
  · rintro rfl
    refine ⟨?_, ?_, fun _ => separator_not_mem_of_mem_segments⟩
    · rw [segments_eq_splitOn]
      exact List.splitOn_ne_nil separator s
    · rw [segments_eq_splitOn]
      exact (List.intercalate_splitOn separator).symm
  · rintro ⟨hne, rfl, hnone⟩
    rw [segments_eq_splitOn, List.splitOn_intercalate separator hnone hne]

theorem segments_append (a b : List Char) :
    segments separator (a ++ separator :: b) = segments separator a ++ segments separator b := by
  simp only [segments_eq_splitOn, List.splitOn_append_cons_self]

end Cuts

end Text

namespace Scope

open Text

variable {s : String} {piece : List Char} {pieces : List (List Char)} {scope : Scope}
  {scopes : List Scope} {e : ParseError}

theorem parse_text (scope : Scope) : parse scope.text = .ok scope := by
  cases scope <;> rfl

theorem parse_of_ne_text (h : ∀ scope : Scope, s ≠ scope.text) :
    parse s = .error (.unknownScope s) := by
  have hlive : s ≠ "live" := h .live
  have hprematch : s ≠ "prematch" := h .prematch
  rw [parse, if_neg hlive, if_neg hprematch]

theorem isTight_text (scope : Scope) : IsTight scope.text.toList := by
  constructor
  · intro c hc
    cases scope <;> cases hc <;> rfl
  · intro c hc
    cases scope <;> cases hc <;> rfl

theorem text_ne_empty (scope : Scope) : scope.text.toList ≠ [] := by
  cases scope <;> decide

theorem bar_not_mem_text (scope : Scope) : '|' ∉ scope.text.toList := by
  cases scope <;> decide

-- The entries of a list that is cut already.
def ofPieces (pieces : List (List Char)) : Except ParseError (List Scope) :=
  (((pieces.map trim).filter (!·.isEmpty)).map String.ofList).mapM parse

theorem parseList_eq (s : String) : parseList s = ofPieces (segments '|' s.toList) := rfl

theorem ofPieces_cons_blank (h : AllBlank piece) (pieces : List (List Char)) :
    ofPieces (piece :: pieces) = ofPieces pieces := by
  simp [ofPieces, trim_eq_nil_iff.mpr h]

theorem ofPieces_cons {t : String} (h : IsTrimmed piece t.toList) (hne : t ≠ "")
    (pieces : List (List Char)) :
    ofPieces (piece :: pieces) = (do
      let scope ← parse t
      let scopes ← ofPieces pieces
      return scope :: scopes) := by
  have hempty : t.toList.isEmpty = false := by simpa using hne
  simp only [ofPieces, List.map_cons, h.trim_eq, List.filter_cons, hempty, Bool.not_false, if_true,
    String.ofList_toList, List.mapM_cons]

-- A piece is blank, holds a scope among blanks, or holds something else.
def IsStray (piece : List Char) (entry : String) : Prop :=
  IsTrimmed piece entry.toList ∧ entry ≠ "" ∧ ∀ scope : Scope, entry ≠ scope.text

theorem piece_cases (piece : List Char) :
    AllBlank piece ∨ (∃ scope : Scope, IsTrimmed piece scope.text.toList) ∨
      ∃ entry, IsStray piece entry := by
  have htrimmed : IsTrimmed piece (String.ofList (trim piece)).toList := by
    rw [String.toList_ofList]
    exact isTrimmed_trim piece
  by_cases hblank : String.ofList (trim piece) = ""
  · exact .inl (trim_eq_nil_iff.mp (by simpa using hblank))
  · by_cases hscope : ∃ scope : Scope, String.ofList (trim piece) = scope.text
    · obtain ⟨scope, hscope⟩ := hscope
      exact .inr (.inl ⟨scope, hscope ▸ htrimmed⟩)
    · exact .inr (.inr ⟨_, htrimmed, hblank, fun scope h => hscope ⟨scope, h⟩⟩)

theorem not_isStray_of_allBlank (h : AllBlank piece) (entry : String) : ¬IsStray piece entry := by
  rintro ⟨htrimmed, hne, -⟩
  have hnil : [] = entry.toList := (trim_eq_nil_iff.mpr h).symm.trans htrimmed.trim_eq
  exact hne (by simpa using hnil.symm)

theorem not_isStray_of_scope (h : IsTrimmed piece scope.text.toList) (entry : String) :
    ¬IsStray piece entry := by
  rintro ⟨htrimmed, -, hnone⟩
  exact hnone scope (String.toList_inj.mp (htrimmed.trim_eq.symm.trans h.trim_eq))

theorem ofPieces_cons_scope (h : IsTrimmed piece scope.text.toList) (pieces : List (List Char)) :
    ofPieces (piece :: pieces) = (ofPieces pieces).map (scope :: ·) := by
  rw [ofPieces_cons h (by simpa using text_ne_empty scope), parse_text]
  rfl

theorem ofPieces_cons_stray {entry : String} (h : IsStray piece entry)
    (pieces : List (List Char)) :
    ofPieces (piece :: pieces) = .error (.unknownScope entry) := by
  rw [ofPieces_cons h.1 h.2.1, parse_of_ne_text h.2.2]
  rfl

-- What two lists say one after the other. An error in the first list is found first.
def joined : Except ParseError (List Scope) → Except ParseError (List Scope) →
    Except ParseError (List Scope)
  | .ok scopes, .ok others => .ok (scopes ++ others)
  | .ok _, .error e => .error e
  | .error e, _ => .error e

theorem ofPieces_append (pieces others : List (List Char)) :
    ofPieces (pieces ++ others) = joined (ofPieces pieces) (ofPieces others) := by
  have happend : ofPieces (pieces ++ others) = (do
      let scopes ← ofPieces pieces
      let more ← ofPieces others
      return scopes ++ more) := by
    simp only [ofPieces, List.map_append, List.filter_append, List.mapM_append]
  rw [happend]
  cases ofPieces pieces <;> cases ofPieces others <;> rfl

theorem parseList_append (a b : String) :
    parseList (a ++ "|" ++ b) = joined (parseList a) (parseList b) := by
  have hbar : (a ++ "|" ++ b).toList = a.toList ++ '|' :: b.toList := by
    simp [String.toList_append]
  rw [parseList_eq, hbar, segments_append, ofPieces_append]
  rfl

-- A list as it may be written: each scope with any blanks around it, and blank pieces between the
-- scopes, before them and after them.
inductive Spells : List (List Char) → List Scope → Prop where
  | nil : Spells [] []
  | blank {piece : List Char} {pieces : List (List Char)} {scopes : List Scope}
      (hblank : AllBlank piece) (hrest : Spells pieces scopes) : Spells (piece :: pieces) scopes
  | scope {before after : List Char} {pieces : List (List Char)} {scopes : List Scope}
      (scope : Scope) (hbefore : AllBlank before) (hafter : AllBlank after)
      (hrest : Spells pieces scopes) :
      Spells ((before ++ scope.text.toList ++ after) :: pieces) (scope :: scopes)

theorem Spells.ofPieces_eq (h : Spells pieces scopes) : ofPieces pieces = .ok scopes := by
  induction h with
  | nil => rfl
  | blank hblank _ ih => rw [ofPieces_cons_blank hblank, ih]
  | scope scope hbefore hafter _ ih =>
    rw [ofPieces_cons_scope ⟨⟨_, _, hbefore, hafter, rfl⟩, isTight_text scope⟩, ih]
    rfl

theorem bar_not_mem_of_allBlank (h : AllBlank piece) : '|' ∉ piece :=
  fun hmem => absurd (h '|' hmem) (by decide)

theorem Spells.bar_not_mem (h : Spells pieces scopes) : ∀ piece ∈ pieces, '|' ∉ piece := by
  induction h with
  | nil => exact nofun
  | blank hblank _ ih =>
    exact List.forall_mem_cons.mpr ⟨bar_not_mem_of_allBlank hblank, ih⟩
  | scope scope hbefore hafter _ ih =>
    refine List.forall_mem_cons.mpr ⟨?_, ih⟩
    simp only [List.mem_append, not_or]
    exact ⟨⟨bar_not_mem_of_allBlank hbefore, bar_not_mem_text scope⟩,
      bar_not_mem_of_allBlank hafter⟩

theorem Spells.parseList_eq (h : Spells pieces scopes) :
    parseList (String.ofList (['|'].intercalate pieces)) = .ok scopes := by
  cases pieces with
  | nil =>
    -- no pieces at all are written as the empty text, which is one blank piece
    cases h
    rfl
  | cons piece pieces =>
    have hcut : IsCut '|' (['|'].intercalate (piece :: pieces)) (piece :: pieces) :=
      ⟨List.cons_ne_nil _ _, rfl, h.bar_not_mem⟩
    rw [Scope.parseList_eq, String.toList_ofList, segments_eq_iff.mpr hcut, h.ofPieces_eq]

def IsFirstStray (pieces : List (List Char)) (entry : String) : Prop :=
  ∃ before piece after, pieces = before ++ piece :: after ∧ IsStray piece entry ∧
    ∀ earlier ∈ before, ∀ other, ¬IsStray earlier other

theorem isFirstStray_cons_of_stray {entry entry' : String} (h : IsStray piece entry) :
    IsFirstStray (piece :: pieces) entry' ↔ entry' = entry := by
  constructor
  · rintro ⟨before, piece', after, hpieces, hstray, hbefore⟩
    cases before with
    | nil =>
      obtain ⟨rfl, -⟩ := List.cons.inj hpieces
      exact String.toList_inj.mp (hstray.1.trim_eq.symm.trans h.1.trim_eq)
    | cons first before =>
      obtain ⟨rfl, -⟩ := List.cons.inj hpieces
      exact absurd h (hbefore _ List.mem_cons_self entry)
  · rintro rfl
    exact ⟨[], piece, pieces, rfl, h, nofun⟩

theorem isFirstStray_cons_of_not_stray {entry : String} (h : ∀ other, ¬IsStray piece other) :
    IsFirstStray (piece :: pieces) entry ↔ IsFirstStray pieces entry := by
  constructor
  · rintro ⟨before, piece', after, hpieces, hstray, hbefore⟩
    cases before with
    | nil =>
      obtain ⟨rfl, -⟩ := List.cons.inj hpieces
      exact absurd hstray (h entry)
    | cons first before =>
      obtain ⟨-, hpieces⟩ := List.cons.inj hpieces
      exact ⟨before, piece', after, hpieces, hstray,
        fun earlier hmem => hbefore earlier (List.mem_cons_of_mem first hmem)⟩
  · rintro ⟨before, piece', after, rfl, hstray, hbefore⟩
    exact ⟨piece :: before, piece', after, rfl, hstray, List.forall_mem_cons.mpr ⟨h, hbefore⟩⟩

theorem ofPieces_eq_error_iff : ofPieces pieces = .error e ↔
    ∃ entry, IsFirstStray pieces entry ∧ e = .unknownScope entry := by
  induction pieces with
  | nil =>
    refine iff_of_false nofun ?_
    rintro ⟨entry, ⟨before, piece, after, hpieces, -⟩, -⟩
    simp at hpieces
  | cons piece pieces ih =>
    obtain hblank | ⟨scope, hscope⟩ | ⟨entry, hstray⟩ := piece_cases piece
    · rw [ofPieces_cons_blank hblank, ih]
      simp only [isFirstStray_cons_of_not_stray (not_isStray_of_allBlank hblank)]
    · simp only [isFirstStray_cons_of_not_stray (not_isStray_of_scope hscope), ← ih]
      rw [ofPieces_cons_scope hscope]
      cases ofPieces pieces with
      | error e' => rfl
      | ok scopes => exact iff_of_false nofun nofun
    · rw [ofPieces_cons_stray hstray]
      simp only [isFirstStray_cons_of_stray hstray, exists_eq_left, Except.error.injEq]
      exact eq_comm

-- Where there is a stray piece, one of them is the first.
theorem exists_isFirstStray_iff : (∃ entry, IsFirstStray pieces entry) ↔
    ∃ piece ∈ pieces, ∃ entry, IsStray piece entry := by
  induction pieces with
  | nil =>
    refine iff_of_false ?_ (by simp)
    rintro ⟨entry, before, piece, after, hpieces, -⟩
    simp at hpieces
  | cons piece pieces ih =>
    simp only [List.mem_cons, exists_eq_or_imp]
    by_cases h : ∃ entry, IsStray piece entry
    · obtain ⟨entry, hstray⟩ := h
      exact iff_of_true ⟨entry, (isFirstStray_cons_of_stray hstray).mpr rfl⟩ (.inl ⟨entry, hstray⟩)
    · simp only [isFirstStray_cons_of_not_stray (not_exists.mp h), ih, h, false_or]

-- How a text is read as a list of scopes.
structure ReadsLists : Prop where
  append : ∀ a b, parseList (a ++ "|" ++ b) = joined (parseList a) (parseList b)
  spelled : ∀ pieces scopes, Spells pieces scopes →
    parseList (String.ofList (['|'].intercalate pieces)) = .ok scopes
  fails : ∀ s, (∃ e, parseList s = .error e) ↔
    ∃ pieces, IsCut '|' s.toList pieces ∧ ∃ piece ∈ pieces, ∃ entry, IsStray piece entry
  error : ∀ s e, parseList s = .error e ↔
    ∃ pieces entry, IsCut '|' s.toList pieces ∧ IsFirstStray pieces entry ∧
      e = .unknownScope entry

theorem parseList_readsLists : ReadsLists := by
  constructor
  case append => exact parseList_append
  case spelled => exact fun _ _ h => h.parseList_eq
  case fails =>
    intro s
    simp only [← segments_eq_iff, exists_eq_left', parseList_eq, ofPieces_eq_error_iff,
      ← exists_isFirstStray_iff]
    constructor
    · rintro ⟨-, entry, hfirst, -⟩
      exact ⟨entry, hfirst⟩
    · rintro ⟨entry, hfirst⟩
      exact ⟨_, entry, hfirst, rfl⟩
  case error =>
    intro s e
    simp only [← segments_eq_iff, parseList_eq, ofPieces_eq_error_iff]
    constructor
    · rintro ⟨entry, hfirst, rfl⟩
      exact ⟨_, entry, rfl, hfirst, rfl⟩
    · rintro ⟨pieces, entry, rfl, hfirst, rfl⟩
      exact ⟨entry, hfirst, rfl⟩

example : parseList " live ||\u00a0prematch" = .ok [.live, .prematch] := by decide

end Scope

end FeedWatch
