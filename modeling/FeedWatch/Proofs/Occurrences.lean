import FeedWatch.Text.Segments
import Mathlib.Data.List.Infix

namespace FeedWatch

namespace Text

section Cuts

variable {mark s before after : List Char}

-- The text is cut at the mark, and no occurrence of it starts earlier.
def IsFirstCut (mark s before after : List Char) : Prop :=
  s = before ++ mark ++ after ∧ ∀ b a, s = b ++ mark ++ a → before.length ≤ b.length

theorem IsFirstCut.unique {before' after' : List Char} (h : IsFirstCut mark s before after)
    (h' : IsFirstCut mark s before' after') : before = before' ∧ after = after' := by
  obtain ⟨hs, hfirst⟩ := h
  obtain ⟨hs', hfirst'⟩ := h'
  have hlength : before.length = before'.length :=
    Nat.le_antisymm (hfirst _ _ hs') (hfirst' _ _ hs)
  rw [hs, List.append_assoc, List.append_assoc] at hs'
  obtain ⟨hbefore, hrest⟩ := List.append_inj hs' hlength
  exact ⟨hbefore, List.append_cancel_left hrest⟩

theorem isFirstCut_of_cut? (h : cut? mark s = some (before, after)) :
    IsFirstCut mark s before after := by
  induction s generalizing before after with
  | nil =>
    simp only [cut?] at h
    split at h <;> rename_i hempty
    · obtain ⟨rfl, rfl⟩ := Prod.mk.inj (Option.some.inj h)
      exact ⟨by simpa using hempty, fun _ _ _ => Nat.zero_le _⟩
    · exact absurd h nofun
  | cons c rest ih =>
    simp only [cut?] at h
    split at h <;> rename_i hprefix
    · obtain ⟨rfl, rfl⟩ := Prod.mk.inj (Option.some.inj h)
      refine ⟨?_, fun _ _ _ => Nat.zero_le _⟩
      exact (List.prefix_iff_eq_append.mp (List.isPrefixOf_iff_prefix.mp hprefix)).symm
    · obtain ⟨⟨b, a⟩, hcut, hpair⟩ := Option.map_eq_some_iff.mp h
      obtain ⟨rfl, rfl⟩ := Prod.mk.inj hpair
      obtain ⟨hrest, hfirst⟩ := ih hcut
      refine ⟨by rw [hrest]; rfl, fun b' a' hs => ?_⟩
      cases b' with
      | nil =>
        have hmark : mark <+: c :: rest := ⟨a', hs.symm⟩
        exact absurd (List.isPrefixOf_iff_prefix.mpr hmark) hprefix
      | cons c' b' =>
        have hshorter := hfirst b' a' (List.cons.inj hs).2
        simpa using hshorter

theorem exists_cut?_of_append (h : s = before ++ mark ++ after) : ∃ cut, cut? mark s = some cut := by
  induction s generalizing before with
  | nil =>
    obtain ⟨hbefore, -⟩ := List.append_eq_nil_iff.mp h.symm
    have hmark : mark = [] := (List.append_eq_nil_iff.mp hbefore).2
    exact ⟨([], []), by rw [cut?, hmark]; rfl⟩
  | cons c rest ih =>
    rw [cut?]
    split <;> rename_i hprefix
    · exact ⟨_, rfl⟩
    · cases before with
      | nil =>
        have hmark : mark <+: c :: rest := ⟨after, h.symm⟩
        exact absurd (List.isPrefixOf_iff_prefix.mpr hmark) hprefix
      | cons c' before =>
        obtain ⟨cut, hcut⟩ := ih (List.cons.inj h).2
        exact ⟨(c :: cut.1, cut.2), by rw [hcut]; rfl⟩

theorem cut?_eq_some_iff : cut? mark s = some (before, after) ↔ IsFirstCut mark s before after := by
  refine ⟨isFirstCut_of_cut?, fun h => ?_⟩
  obtain ⟨cut, hcut⟩ := exists_cut?_of_append h.1
  obtain ⟨hbefore, hafter⟩ := (isFirstCut_of_cut? hcut).unique h
  rw [hcut, ← hbefore, ← hafter]

end Cuts

section Occurrences

variable {mark s before after : List Char}

theorem IsFirstCut.not_infix (hmark : mark ≠ []) (h : IsFirstCut mark s before after) :
    ¬mark <:+: before := by
  obtain ⟨rfl, hfirst⟩ := h
  rintro ⟨b, a, rfl⟩
  have hlength := hfirst b (a ++ mark ++ after) (by simp)
  have hpos : 0 < mark.length := List.length_pos_iff.mpr hmark
  simp only [List.length_append] at hlength
  omega

-- An occurrence that begins before another one ends before it, as the first character of the mark
-- does not come again in the mark.
theorem prefix_of_overlap {c : Char} {tail d a : List Char} (hc : c ∉ tail)
    (h : c :: tail ++ a = d ++ (c :: tail ++ after)) (hd : d ≠ []) : c :: tail <+: d := by
  cases d with
  | nil => exact absurd rfl hd
  | cons x d =>
    obtain ⟨rfl, hrest⟩ := List.cons.inj h
    rw [List.prefix_cons_inj]
    obtain ⟨more, rfl, -⟩ | ⟨e, rfl, he⟩ := List.append_eq_append_iff.mp hrest
    · exact List.prefix_append tail more
    · cases e with
      | nil => simp
      | cons y e =>
        obtain ⟨rfl, -⟩ := List.cons.inj he
        simp at hc

-- The first character of the mark does not come again in the mark, so that no two occurrences of it
-- overlap.
def StartsOnce (mark : List Char) : Prop := ∃ c tail, mark = c :: tail ∧ c ∉ tail

theorem isFirstCut_iff (hmark : StartsOnce mark) : IsFirstCut mark s before after ↔
    s = before ++ mark ++ after ∧ ¬mark <:+: before := by
  obtain ⟨c, tail, rfl, hc⟩ := hmark
  constructor
  · exact fun h => ⟨h.1, h.not_infix (List.cons_ne_nil c tail)⟩
  · rintro ⟨hs, hnone⟩
    refine ⟨hs, fun b a hb => ?_⟩
    rw [hs, List.append_assoc, List.append_assoc] at hb
    obtain ⟨more, rfl, -⟩ | ⟨d, rfl, hd⟩ := List.append_eq_append_iff.mp hb
    · simp
    · by_cases hempty : d = []
      · simp [hempty]
      · have hbegins : c :: tail <+: d := prefix_of_overlap hc hd hempty
        exact absurd (hbegins.isInfix.trans (List.suffix_append b d).isInfix) hnone

end Occurrences

section Offsets

variable {text mark a b : String} {offset : Nat}

-- The bytes of the mark stand in those of the text, from this offset on.
def StandsAt (mark text : String) (offset : Nat) : Prop :=
  text.toByteArray.extract offset (offset + mark.utf8ByteSize) = mark.toByteArray

instance : Decidable (StandsAt mark text offset) := inferInstanceAs (Decidable (_ = _))

-- Where in the bytes of the text those of the mark stand first.
def offset? (mark text : String) : Option Nat :=
  (List.range (text.utf8ByteSize + 1)).find? fun offset => StandsAt mark text offset

-- The text between two offsets. There is none if one of them lies within a character.
def slice? (text : String) (first last : Nat) : Option String :=
  if String.Pos.Raw.IsValid text ⟨first⟩ ∧ String.Pos.Raw.IsValid text ⟨last⟩ ∧ first ≤ last then
    String.fromUTF8? (text.toByteArray.extract first last)
  else none

theorem extract_bytes (a b c : String) :
    (a ++ (b ++ c)).toByteArray.extract a.utf8ByteSize (a.utf8ByteSize + b.utf8ByteSize) =
      b.toByteArray := by
  simp only [String.toByteArray_append, ← String.size_toByteArray]
  calc
    _ = (b.toByteArray ++ c.toByteArray).extract 0 b.toByteArray.size :=
      ByteArray.extract_append_size_add (i := 0)
    _ = b.toByteArray := ByteArray.extract_append_eq_left rfl

-- The bytes of a text that is not empty begin with the first byte of a character and end with the
-- last byte of one. So wherever they stand, they stand between characters.
theorem StandsAt.isValid (hmark : mark ≠ "") (h : StandsAt mark text offset) :
    String.Pos.Raw.IsValid text ⟨offset⟩ ∧
      String.Pos.Raw.IsValid text ⟨offset + mark.utf8ByteSize⟩ := by
  have hpos : 0 < mark.utf8ByteSize :=
    Nat.pos_of_ne_zero fun hzero => hmark (String.utf8ByteSize_eq_zero_iff.mp hzero)
  have hfits : offset + mark.utf8ByteSize ≤ text.utf8ByteSize := by
    have hsize := congrArg ByteArray.size h
    simp only [ByteArray.size_extract, String.size_toByteArray] at hsize
    omega
  have hvalid : (text.toByteArray.extract offset (offset + mark.utf8ByteSize)).IsValidUTF8 :=
    h ▸ mark.isValidUTF8
  obtain hsame | hboth := (String.Pos.Raw.isValidUTF8_extract_iff (s := text) ⟨offset⟩
    ⟨offset + mark.utf8ByteSize⟩ (Nat.le_add_right _ _) hfits).mp hvalid
  · have hoffset : offset = offset + mark.utf8ByteSize := congrArg String.Pos.Raw.byteIdx hsame
    omega
  · exact hboth

theorem standsAt_iff (hmark : mark ≠ "") : StandsAt mark text offset ↔
    ∃ before after, text = before ++ (mark ++ after) ∧ before.utf8ByteSize = offset := by
  constructor
  · intro h
    obtain ⟨hfirst, hlast⟩ := h.isValid hmark
    have hfits : offset + mark.utf8ByteSize ≤ text.toByteArray.size := hlast.le_utf8ByteSize
    refine ⟨⟨_, hfirst.isValidUTF8_extract_zero⟩, ⟨_, hlast.isValidUTF8_extract_utf8ByteSize⟩,
      String.toByteArray_inj.mp ?_, ?_⟩
    · rw [String.toByteArray_append, String.toByteArray_append, ← h]
      calc
        text.toByteArray = text.toByteArray.extract 0 text.toByteArray.size :=
          ByteArray.extract_zero_size.symm
        _ = text.toByteArray.extract 0 offset ++
              text.toByteArray.extract offset text.toByteArray.size :=
          ByteArray.extract_eq_extract_append_extract offset (Nat.zero_le _) (by omega)
        _ = text.toByteArray.extract 0 offset ++
              (text.toByteArray.extract offset (offset + mark.utf8ByteSize) ++
                text.toByteArray.extract (offset + mark.utf8ByteSize) text.toByteArray.size) :=
          congrArg _ (ByteArray.extract_eq_extract_append_extract _ (Nat.le_add_right _ _) hfits)
    · rw [← String.size_toByteArray, ByteArray.size_extract, Nat.sub_zero]
      exact Nat.min_eq_left ((Nat.le_add_right _ _).trans hfits)
  · rintro ⟨before, after, rfl, rfl⟩
    exact extract_bytes before mark after

-- What a text begins with has no more bytes than the text.
theorem utf8ByteSize_le_of_prefix (h : a.toList <+: b.toList) :
    a.utf8ByteSize ≤ b.utf8ByteSize := by
  obtain ⟨more, hmore⟩ := h
  have hb : b = a ++ String.ofList more := String.toList_inj.mp (by simp [hmore])
  rw [hb, String.utf8ByteSize_append]
  exact Nat.le_add_right _ _

theorem IsFirstCut.text_eq {before after : List Char}
    (h : IsFirstCut mark.toList text.toList before after) :
    text = String.ofList before ++ (mark ++ String.ofList after) :=
  String.toList_inj.mp (by simp [h.1])

theorem offset?_of_isFirstCut {before after : List Char} (hmark : mark ≠ "")
    (h : IsFirstCut mark.toList text.toList before after) :
    offset? mark text = some (String.ofList before).utf8ByteSize := by
  have hbefore : (String.ofList before).toList <+: text.toList :=
    ⟨mark.toList ++ after, by simp [h.1]⟩
  rw [offset?, List.find?_range_eq_some]
  refine ⟨?_, ?_, ?_⟩
  · exact decide_eq_true ((standsAt_iff hmark).mpr ⟨_, _, h.text_eq, rfl⟩)
  · have hsize := utf8ByteSize_le_of_prefix hbefore
    exact List.mem_range.mpr (by omega)
  · intro earlier hearlier
    rw [Bool.not_eq_true', decide_eq_false_iff_not]
    intro hstands
    obtain ⟨b, a, hb, rfl⟩ := (standsAt_iff hmark).mp hstands
    have hlength : before.length ≤ b.toList.length := h.2 b.toList a.toList (by simp [hb])
    have hprefix : b.toList <+: text.toList := ⟨(mark ++ a).toList, by simp [hb]⟩
    have hsize := utf8ByteSize_le_of_prefix
      (List.prefix_of_prefix_length_le hbefore hprefix (by simpa using hlength))
    omega

theorem offset?_of_cut?_eq_none (hmark : mark ≠ "")
    (h : cut? mark.toList text.toList = none) : offset? mark text = none := by
  rw [offset?, List.find?_eq_none]
  intro offset _ hstands
  obtain ⟨before, after, rfl, -⟩ := (standsAt_iff hmark).mp (of_decide_eq_true hstands)
  have htext : (before ++ (mark ++ after)).toList =
      before.toList ++ mark.toList ++ after.toList := by simp
  obtain ⟨cut, hsome⟩ := exists_cut?_of_append htext
  cases h.symm.trans hsome

theorem slice?_append (a b c : String) :
    slice? (a ++ (b ++ c)) a.utf8ByteSize (a.utf8ByteSize + b.utf8ByteSize) = some b := by
  have hfirst : String.Pos.Raw.IsValid (a ++ (b ++ c)) a.rawEndPos :=
    String.Pos.Raw.isValid_rawEndPos.append_right _
  have hlast : String.Pos.Raw.IsValid (a ++ (b ++ c)) (a ++ b).rawEndPos := by
    rw [← String.append_assoc]
    exact String.Pos.Raw.isValid_rawEndPos.append_right _
  have hoffset : (a ++ b).rawEndPos = ⟨a.utf8ByteSize + b.utf8ByteSize⟩ := by
    rw [String.Pos.Raw.ext_iff, String.byteIdx_rawEndPos, String.utf8ByteSize_append]
  rw [slice?, if_pos ⟨hfirst, hoffset ▸ hlast, Nat.le_add_right _ _⟩, extract_bytes,
    String.fromUTF8?, dif_pos b.isValidUTF8]
  rfl

-- What stands after the first occurrence of the mark.
theorem IsFirstCut.slice?_eq {before after : List Char}
    (h : IsFirstCut mark.toList text.toList before after) :
    slice? text ((String.ofList before).utf8ByteSize + mark.utf8ByteSize) text.utf8ByteSize =
      some (String.ofList after) := by
  rw [h.text_eq]
  simpa [String.utf8ByteSize_append, Nat.add_assoc, String.append_assoc] using
    slice?_append (String.ofList before ++ mark) (String.ofList after) ""

end Offsets

end Text

end FeedWatch
