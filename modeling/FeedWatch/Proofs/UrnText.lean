import FeedWatch.Urn
import Mathlib.Algebra.Group.Nat.Defs

namespace FeedWatch

namespace Text

section Segments

variable {separator : Char} {s a b c : List Char}

theorem segments_eq_splitOn (separator : Char) (s : List Char) :
    segments separator s = s.splitOn separator := by
  induction s with
  | nil => rfl
  | cons c rest ih =>
    rw [segments, ih, List.splitOn_cons_eq_if_modifyHead]
    simp only [beq_iff_eq]
    split
    · rfl
    · cases h : rest.splitOn separator with
      | nil => exact absurd h (List.splitOn_ne_nil separator rest)
      | cons first others => rfl

theorem length_segments (separator : Char) (s : List Char) :
    (segments separator s).length = s.count separator + 1 := by
  induction s with
  | nil => rfl
  | cons c rest ih =>
    rw [segments, List.count_cons]
    by_cases hc : c = separator
    · simp [hc, ih]
    · cases h : segments separator rest with
      | nil => simp [h] at ih
      | cons first others => simpa [hc, h] using ih

-- The three parts of a text with two separators.
theorem segments_eq_three_iff : segments separator s = [a, b, c] ↔
    s = a ++ separator :: (b ++ separator :: c) ∧ s.count separator = 2 := by
  rw [segments_eq_splitOn]
  constructor
  · intro h
    have hjoined : [separator].intercalate (s.splitOn separator) = s :=
      List.intercalate_splitOn separator
    rw [h] at hjoined
    have hlength := length_segments separator s
    rw [segments_eq_splitOn, h] at hlength
    exact ⟨by simpa [List.intercalate] using hjoined.symm, by simpa using hlength.symm⟩
  · rintro ⟨rfl, hcount⟩
    simp only [List.count_append, List.count_cons_self] at hcount
    have ha : separator ∉ a := List.count_eq_zero.mp (by omega)
    have hb : separator ∉ b := List.count_eq_zero.mp (by omega)
    have hc : separator ∉ c := List.count_eq_zero.mp (by omega)
    rw [List.splitOn_append_cons_self_of_not_mem ha, List.splitOn_append_cons_self_of_not_mem hb,
      List.splitOn_eq_singleton hc]

end Segments

section Numerals

variable {limit value n : Nat} {s : List Char}

-- One ASCII digit at least, after a plus sign if any.
def IsNumeral (s : List Char) (n : Nat) : Prop :=
  ∃ digits, (s = digits ∨ s = '+' :: digits) ∧ digits ≠ [] ∧ (∀ c ∈ digits, c.isDigit = true) ∧
    Nat.ofDigitChars 10 digits 0 = n

theorem digit?_eq (c : Char) :
    digit? c = if c.isDigit = true then some (c.toNat - '0'.toNat) else none := by
  simp only [digit?, Char.isDigit, Bool.and_eq_true, decide_eq_true_eq]
  rfl

theorem le_ofDigitChars (s : List Char) (value : Nat) : value ≤ Nat.ofDigitChars 10 s value := by
  rw [Nat.ofDigitChars_eq_ofDigitChars_zero]
  calc
    value ≤ 10 ^ s.length * value := Nat.le_mul_of_pos_left _ (Nat.pow_pos (by decide))
    _ ≤ 10 ^ s.length * value + Nat.ofDigitChars 10 s 0 := Nat.le_add_right _ _

-- By induction on the text. Where the value reaches the limit it stays there, as more digits make
-- it larger only.
theorem readDigits_eq_ok_iff (hvalue : value < limit) : readDigits limit value s = .ok n ↔
    (∀ c ∈ s, c.isDigit = true) ∧ Nat.ofDigitChars 10 s value = n ∧ n < limit := by
  induction s generalizing value with
  | nil =>
    simp only [readDigits, Except.ok.injEq, List.not_mem_nil, false_implies, implies_true, true_and,
      Nat.ofDigitChars_nil]
    constructor
    · rintro rfl
      exact ⟨rfl, hvalue⟩
    · exact fun h => h.1
  | cons c rest ih =>
    rw [readDigits, digit?_eq, Nat.ofDigitChars_cons, Nat.mul_comm 10, List.forall_mem_cons]
    by_cases hc : c.isDigit = true
    · rw [if_pos hc]
      simp only [hc, true_and]
      split <;> rename_i hsmall
      · exact ih hsmall
      · have hgrows := le_ofDigitChars rest (value * 10 + (c.toNat - '0'.toNat))
        constructor
        · exact nofun
        · rintro ⟨-, rfl, hlt⟩
          omega
    · rw [if_neg hc]
      exact iff_of_false nofun fun h => hc h.1.1

theorem not_isDigit_plus : ¬ '+'.isDigit = true := by decide

theorem readNumber_eq_ok_iff (hlimit : 0 < limit) :
    readNumber limit s = .ok n ↔ IsNumeral s n ∧ n < limit := by
  unfold readNumber IsNumeral
  split
  · refine iff_of_false nofun ?_
    rintro ⟨⟨digits, h | h, hne, -⟩, -⟩
    · exact hne h.symm
    · cases h
  · refine iff_of_false nofun ?_
    rintro ⟨⟨digits, h | h, hne, hdigits, -⟩, -⟩
    · exact not_isDigit_plus (hdigits '+' (by simp [← h]))
    · exact hne (List.cons.inj h).2.symm
  · rename_i digits hne
    rw [readDigits_eq_ok_iff hlimit]
    constructor
    · rintro ⟨hdigits, rfl, hlt⟩
      exact ⟨⟨digits, .inr rfl, fun h => hne (h ▸ rfl), hdigits, rfl⟩, hlt⟩
    · rintro ⟨⟨digits', h | h, -, hdigits, rfl⟩, hlt⟩
      · exact absurd (hdigits '+' (by simp [← h])) not_isDigit_plus
      · obtain rfl := (List.cons.inj h).2
        exact ⟨hdigits, rfl, hlt⟩
  · rename_i hnil hplus hsign
    rw [readDigits_eq_ok_iff hlimit]
    constructor
    · rintro ⟨hdigits, rfl, hlt⟩
      exact ⟨⟨s, .inl rfl, hnil, hdigits, rfl⟩, hlt⟩
    · rintro ⟨⟨digits, rfl | h, -, hdigits, rfl⟩, hlt⟩
      · exact ⟨hdigits, rfl, hlt⟩
      · exact absurd h (hsign digits)

-- What a numeral stands for, any number that reads it finds.
theorem IsNumeral.unique {n' : Nat} (h : IsNumeral s n) (h' : IsNumeral s n') : n = n' := by
  have hread : readNumber (n + n' + 1) s = .ok n :=
    (readNumber_eq_ok_iff (by omega)).mpr ⟨h, by omega⟩
  have hread' : readNumber (n + n' + 1) s = .ok n' :=
    (readNumber_eq_ok_iff (by omega)).mpr ⟨h', by omega⟩
  exact Except.ok.inj (hread.symm.trans hread')

end Numerals

end Text

namespace Urn

variable {s scheme kind id : String} {n : Nat}

-- The text has two colons, and these parts before, between and after them.
structure HasParts (s scheme kind id : String) : Prop where
  text : s = scheme ++ ":" ++ kind ++ ":" ++ id
  colons : s.toList.count ':' = 2

-- The text is the name of the entity of this kind with this number.
structure IsName (s scheme kind : String) (n : Nat) : Prop where
  parts : ∃ id, HasParts s scheme kind id ∧ Text.IsNumeral id.toList n
  scheme : scheme ≠ ""
  kind : kind ≠ ""
  small : n < 2 ^ 64

theorem hasParts_iff : HasParts s scheme kind id ↔
    Text.segments ':' s.toList = [scheme.toList, kind.toList, id.toList] := by
  rw [Text.segments_eq_three_iff]
  constructor
  · rintro ⟨rfl, hcount⟩
    exact ⟨by simp, hcount⟩
  · rintro ⟨htext, hcount⟩
    exact ⟨String.toList_inj.mp (by simpa using htext), hcount⟩

theorem HasParts.unique {scheme' kind' id' : String} (h : HasParts s scheme kind id)
    (h' : HasParts s scheme' kind' id') : scheme = scheme' ∧ kind = kind' ∧ id = id' := by
  have hsame := (hasParts_iff.mp h).symm.trans (hasParts_iff.mp h')
  simpa [String.toList_inj] using hsame

-- A text has one choice of parts at most, so what is said of some parts is said of these.
theorem HasParts.exists_iff (h : HasParts s scheme kind id) {P : String → String → String → Prop} :
    (∃ scheme kind id, HasParts s scheme kind id ∧ P scheme kind id) ↔ P scheme kind id := by
  constructor
  · rintro ⟨scheme', kind', id', h', hP⟩
    obtain ⟨rfl, rfl, rfl⟩ := h.unique h'
    exact hP
  · exact fun hP => ⟨scheme, kind, id, h, hP⟩

theorem exists_hasParts (h : s.toList.count ':' = 2) :
    ∃ scheme kind id, HasParts s scheme kind id := by
  have hlength := Text.length_segments ':' s.toList
  rw [h] at hlength
  match hsegments : Text.segments ':' s.toList, hlength with
  | [a, b, c], _ =>
    exact ⟨String.ofList a, String.ofList b, String.ofList c,
      hasParts_iff.mpr (by simpa using hsegments)⟩

theorem HasParts.isName_iff {scheme' kind' : String} (h : HasParts s scheme kind id) :
    IsName s scheme' kind' n ↔ scheme' = scheme ∧ kind' = kind ∧ Text.IsNumeral id.toList n ∧
      ¬(scheme = "" ∨ kind = "") ∧ n < 2 ^ 64 := by
  constructor
  · rintro ⟨⟨id', hparts, hnumeral⟩, hscheme, hkind, hsmall⟩
    obtain ⟨rfl, rfl, rfl⟩ := h.unique hparts
    exact ⟨rfl, rfl, hnumeral, not_or.mpr ⟨hscheme, hkind⟩, hsmall⟩
  · rintro ⟨rfl, rfl, hnumeral, hnamed, hsmall⟩
    obtain ⟨hscheme, hkind⟩ := not_or.mp hnamed
    exact ⟨⟨id, h, hnumeral⟩, hscheme, hkind, hsmall⟩

-- The ways in which a text is read, in the order in which they are tried.
theorem parse_cases (s : String) :
    s.toList.count ':' ≠ 2 ∧ parse s = .error (.invalidUrn s) ∨
      ∃ scheme kind id, HasParts s scheme kind id ∧
        ((scheme = "" ∨ kind = "") ∧ parse s = .error (.invalidUrn s) ∨
          ¬(scheme = "" ∨ kind = "") ∧
            ((¬∃ n < 2 ^ 64, Text.IsNumeral id.toList n) ∧
                (∃ reason, parse s = .error (.invalidUrnId s reason)) ∨
              ∃ n, n.toNat < 2 ^ 64 ∧ Text.IsNumeral id.toList n.toNat ∧
                parse s = .ok ⟨scheme, kind, n⟩)) := by
  by_cases hcolons : s.toList.count ':' = 2
  · obtain ⟨scheme, kind, id, hparts⟩ := exists_hasParts hcolons
    refine .inr ⟨scheme, kind, id, hparts, ?_⟩
    simp only [parse, hasParts_iff.mp hparts]
    by_cases hblank : scheme = "" ∨ kind = ""
    · exact .inl ⟨hblank, if_pos (by simpa using hblank)⟩
    · refine .inr ⟨hblank, ?_⟩
      rw [if_neg (by simpa using hblank)]
      cases hread : Text.readNumber UInt64.size id.toList with
      | ok n =>
        obtain ⟨hnumeral, hsmall⟩ := (Text.readNumber_eq_ok_iff (by decide)).mp hread
        have hn : (UInt64.ofNat n).toNat = n := UInt64.toNat_ofNat_of_lt' hsmall
        exact .inr ⟨UInt64.ofNat n, UInt64.toNat_lt _, by rwa [hn], by simp⟩
      | error e =>
        refine .inl ⟨?_, _, rfl⟩
        rintro ⟨n, hsmall, hnumeral⟩
        have hok := (Text.readNumber_eq_ok_iff (by decide)).mpr ⟨hnumeral, hsmall⟩
        cases hok.symm.trans hread
  · refine .inl ⟨hcolons, ?_⟩
    unfold parse
    split
    · rename_i a b c hsegments
      exact absurd (Text.segments_eq_three_iff.mp hsegments).2 hcolons
    · rfl

theorem parse_eq_ok_iff {urn : Urn} :
    parse s = .ok urn ↔ IsName s urn.scheme urn.kind urn.id.toNat := by
  obtain ⟨hcolons, h⟩ | ⟨scheme, kind, id, hparts, ⟨hblank, h⟩ | ⟨hnamed, hread⟩⟩ := parse_cases s
  · rw [h]
    refine iff_of_false nofun ?_
    rintro ⟨⟨id, hparts, -⟩, -⟩
    exact hcolons hparts.colons
  · rw [h, hparts.isName_iff]
    exact iff_of_false nofun fun hname => hname.2.2.2.1 hblank
  · rw [hparts.isName_iff]
    obtain ⟨hnone, reason, h⟩ | ⟨n, hsmall, hnumeral, h⟩ := hread
    · rw [h]
      exact iff_of_false nofun fun hname => hnone ⟨_, hname.2.2.2.2, hname.2.2.1⟩
    · rw [h]
      constructor
      · rintro ⟨⟩
        exact ⟨rfl, rfl, hnumeral, hnamed, hsmall⟩
      · rintro ⟨rfl, rfl, hnumeral', -⟩
        obtain rfl := UInt64.toNat_inj.mp (hnumeral.unique hnumeral')
        rfl

theorem parse_eq_invalidUrn_iff {value : String} : parse s = .error (.invalidUrn value) ↔
    value = s ∧ (s.toList.count ':' ≠ 2 ∨ ∃ scheme kind id, HasParts s scheme kind id ∧
      (scheme = "" ∨ kind = "")) := by
  obtain ⟨hcolons, h⟩ | ⟨scheme, kind, id, hparts, ⟨hblank, h⟩ | ⟨hnamed, hread⟩⟩ := parse_cases s
  · simp [h, hcolons, eq_comm]
  · rw [hparts.exists_iff]
    simp [h, hblank, eq_comm]
  · rw [hparts.exists_iff]
    obtain ⟨-, reason, h⟩ | ⟨n, -, -, h⟩ := hread
    · simp [h, hparts.colons, hnamed]
    · simp [h, hparts.colons, hnamed]

theorem parse_eq_invalidUrnId_iff {value : String} :
    (∃ reason, parse s = .error (.invalidUrnId value reason)) ↔ value = s ∧
      ∃ scheme kind id, HasParts s scheme kind id ∧ ¬(scheme = "" ∨ kind = "") ∧
        ¬∃ n < 2 ^ 64, Text.IsNumeral id.toList n := by
  obtain ⟨hcolons, h⟩ | ⟨scheme, kind, id, hparts, ⟨hblank, h⟩ | ⟨hnamed, hread⟩⟩ := parse_cases s
  · refine iff_of_false (by simp [h]) ?_
    rintro ⟨-, scheme, kind, id, hparts, -⟩
    exact hcolons hparts.colons
  · rw [hparts.exists_iff]
    simp [h, hblank]
  · rw [hparts.exists_iff]
    obtain ⟨hnone, reason, h⟩ | ⟨n, hsmall, hnumeral, h⟩ := hread
    · simp only [h, hnamed, hnone]
      simp [eq_comm]
    · refine iff_of_false (by simp [h]) ?_
      rintro ⟨-, -, hnone⟩
      exact hnone ⟨_, hsmall, hnumeral⟩

theorem IsName.parse (h : IsName s scheme kind n) :
    ∃ urn, parse s = .ok urn ∧ urn.scheme = scheme ∧ urn.kind = kind ∧ urn.id.toNat = n := by
  have hn : (UInt64.ofNat n).toNat = n := UInt64.toNat_ofNat_of_lt' h.small
  exact ⟨⟨scheme, kind, UInt64.ofNat n⟩, parse_eq_ok_iff.mpr (by rwa [hn]), rfl, rfl, hn⟩

-- Which texts are read, as what, and what is said of the others.
structure FollowsGrammar (s : String) : Prop where
  ok : (∃ urn, parse s = .ok urn) ↔ ∃ scheme kind n, IsName s scheme kind n
  urn : ∀ scheme kind n, IsName s scheme kind n →
    ∃ urn, parse s = .ok urn ∧ urn.scheme = scheme ∧ urn.kind = kind ∧ urn.id.toNat = n
  invalidUrn : ∀ value, parse s = .error (.invalidUrn value) ↔ value = s ∧
    (s.toList.count ':' ≠ 2 ∨ ∃ scheme kind id, HasParts s scheme kind id ∧
      (scheme = "" ∨ kind = ""))
  invalidUrnId : ∀ value, (∃ reason, parse s = .error (.invalidUrnId value reason)) ↔ value = s ∧
    ∃ scheme kind id, HasParts s scheme kind id ∧ ¬(scheme = "" ∨ kind = "") ∧
      ¬∃ n < 2 ^ 64, Text.IsNumeral id.toList n

theorem parse_followsGrammar (s : String) : FollowsGrammar s := by
  constructor
  case ok =>
    constructor
    · rintro ⟨urn, h⟩
      exact ⟨_, _, _, parse_eq_ok_iff.mp h⟩
    · rintro ⟨scheme, kind, n, hname⟩
      obtain ⟨urn, h, -⟩ := hname.parse
      exact ⟨urn, h⟩
  case urn => exact fun _ _ _ hname => hname.parse
  case invalidUrn => exact fun _ => parse_eq_invalidUrn_iff
  case invalidUrnId => exact fun _ => parse_eq_invalidUrnId_iff

end Urn

end FeedWatch
