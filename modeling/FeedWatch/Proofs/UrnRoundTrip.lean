import FeedWatch.Proofs.Paths
import FeedWatch.Proofs.UrnText
import Mathlib.Data.List.Basic

namespace FeedWatch

namespace Text

variable {digits : List Char} {c : Char} {n : Nat}

-- A number without a sign, and without a zero before other digits.
structure IsBare (s : List Char) : Prop where
  sign : '+' ∉ s
  zero : ∀ rest, s = '0' :: rest → rest = []

theorem toDigits_digit (h : c.isDigit = true) :
    c.toNat - '0'.toNat < 10 ∧ Nat.toDigits 10 (c.toNat - '0'.toNat) = [c] := by
  obtain ⟨hlow, hhigh⟩ : 48 ≤ c.toNat ∧ c.toNat ≤ 57 := Char.isDigit_iff_toNat.mp h
  have hlt : c.toNat - '0'.toNat < 10 := by
    have hzero : '0'.toNat = 48 := rfl
    omega
  have hchar : (c.toNat - '0'.toNat).digitChar.toNat = c.toNat := by
    rw [Nat.toNat_digitChar_of_lt_ten hlt]
    exact Nat.add_sub_cancel' hlow
  rw [Nat.toDigits_of_lt_base hlt, Char.toNat_inj.mp hchar]
  exact ⟨hlt, rfl⟩

-- By induction on the digits that are still to come. The value so far is not zero, so all its
-- digits are written.
theorem toDigits_ofDigitChars_of_pos (hdigits : ∀ c ∈ digits, c.isDigit = true) (hn : 0 < n) :
    Nat.toDigits 10 (Nat.ofDigitChars 10 digits n) = Nat.toDigits 10 n ++ digits := by
  induction digits generalizing n with
  | nil => simp [Nat.ofDigitChars_nil]
  | cons c rest ih =>
    rw [List.forall_mem_cons] at hdigits
    obtain ⟨hc, hrest⟩ := hdigits
    obtain ⟨hlt, hdigit⟩ := toDigits_digit hc
    rw [Nat.ofDigitChars_cons, ih hrest (by omega),
      ← Nat.toDigits_append_toDigits (by decide) hn hlt, hdigit, List.append_assoc]
    rfl

theorem head?_toDigits (hn : 0 < n) : (Nat.toDigits 10 n).head? ≠ some '0' := by
  induction n using Nat.strong_induction_on with
  | h n ih =>
    rw [Nat.toDigits_eq_if (by decide)]
    split
    · simp only [List.head?_cons, ne_eq, Option.some.injEq, Nat.digitChar_eq_zero]
      omega
    · rw [List.head?_append_of_ne_nil _ Nat.toDigits_ne_nil]
      exact ih (n / 10) (by omega) (by omega)

theorem isBare_toDigits (n : Nat) : IsBare (Nat.toDigits 10 n) := by
  constructor
  case sign =>
    intro h
    exact not_isDigit_plus (Nat.isDigit_of_mem_toDigits (by decide) (by decide) h)
  case zero =>
    intro rest h
    obtain rfl | hn := Nat.eq_zero_or_pos n
    · rw [Nat.toDigits_zero] at h
      exact (List.cons.inj h).2.symm
    · exact absurd (by rw [h]; rfl) (head?_toDigits hn)

theorem isNumeral_toDigits (n : Nat) : IsNumeral (Nat.toDigits 10 n) n :=
  ⟨Nat.toDigits 10 n, .inl rfl, Nat.toDigits_ne_nil,
    fun _ hc => Nat.isDigit_of_mem_toDigits (by decide) (by decide) hc,
    Nat.ofDigitChars_ten_toDigits⟩

-- Each number has one bare numeral, the one that is written.
theorem IsNumeral.isBare_iff {s : List Char} (h : IsNumeral s n) :
    IsBare s ↔ s = Nat.toDigits 10 n := by
  constructor
  · intro hbare
    obtain ⟨digits, rfl | rfl, hne, hdigits, rfl⟩ := h
    · cases s with
      | nil => exact absurd rfl hne
      | cons c rest =>
        obtain ⟨hc, hrest⟩ := List.forall_mem_cons.mp hdigits
        obtain ⟨-, hdigit⟩ := toDigits_digit hc
        rw [Nat.ofDigitChars_cons, Nat.mul_zero, Nat.zero_add]
        by_cases hzero : c = '0'
        · subst hzero
          rw [hbare.zero rest rfl]
          rfl
        · have hpos : 0 < c.toNat - '0'.toNat := by
            refine Nat.pos_of_ne_zero fun hn => hzero ?_
            rw [hn, Nat.toDigits_zero] at hdigit
            exact (List.cons.inj hdigit).1.symm
          rw [toDigits_ofDigitChars_of_pos hrest hpos, hdigit]
          rfl
    · exact absurd List.mem_cons_self hbare.sign
  · rintro rfl
    exact isBare_toDigits n

end Text

namespace Urn

variable {s scheme kind id : String} {urn : Urn}

-- Both texts are there, and the colons of the name are those between its parts.
structure IsWritable (urn : Urn) : Prop extends urn.IsPlain where
  scheme_ne : urn.scheme ≠ ""
  kind_ne : urn.kind ≠ ""

theorem text_eq_iff : urn.text = urn.scheme ++ ":" ++ urn.kind ++ ":" ++ id ↔
    id.toList = Nat.toDigits 10 urn.id.toNat := by
  rw [text_eq]
  simp only [String.append_assoc, String.append_right_inj]
  rw [← Nat.toList_repr, String.toList_inj, eq_comm]

theorem count_text (urn : Urn) :
    urn.text.toList.count ':' = urn.scheme.toList.count ':' + urn.kind.toList.count ':' + 2 := by
  have hid : urn.id.toNat.repr.toList.count ':' = 0 := by
    rw [List.count_eq_zero]
    intro h
    exact absurd (Text.isDigit_of_mem_repr h) (by decide)
  rw [text_eq]
  simp only [String.toList_append, List.count_append, hid]
  simp
  omega

-- The text has two colons of its own, so that it is a name exactly if its parts add none.
theorem isName_text_iff :
    IsName urn.text urn.scheme urn.kind urn.id.toNat ↔ urn.IsWritable := by
  constructor
  · rintro ⟨⟨id, hparts, -⟩, hscheme, hkind, -⟩
    have hcolons := hparts.colons
    rw [count_text] at hcolons
    exact ⟨⟨List.count_eq_zero.mp (by omega), List.count_eq_zero.mp (by omega)⟩, hscheme, hkind⟩
  · rintro ⟨⟨hscheme, hkind⟩, hne, hne'⟩
    refine ⟨⟨urn.id.toNat.repr, ⟨?_, ?_⟩, ?_⟩, hne, hne', UInt64.toNat_lt _⟩
    · exact text_eq_iff.mpr Nat.toList_repr
    · rw [count_text, List.count_eq_zero.mpr hscheme, List.count_eq_zero.mpr hkind]
    · rw [Nat.toList_repr]
      exact Text.isNumeral_toDigits _

theorem parse_text_iff : parse urn.text = .ok urn ↔ urn.IsWritable :=
  parse_eq_ok_iff.trans isName_text_iff

-- What was read can be written.
theorem isWritable_of_parse (h : parse s = .ok urn) : urn.IsWritable := by
  obtain ⟨⟨id, hparts, -⟩, hscheme, hkind, -⟩ := parse_eq_ok_iff.mp h
  have hcolons := hparts.colons
  rw [hparts.text] at hcolons
  simp only [String.toList_append, List.count_append] at hcolons
  have hcolon : ":".toList.count ':' = 1 := by decide
  exact ⟨⟨List.count_eq_zero.mp (by omega), List.count_eq_zero.mp (by omega)⟩, hscheme, hkind⟩

theorem text_eq_iff_of_parse (h : parse s = .ok urn) : urn.text = s ↔
    ∃ scheme kind id, HasParts s scheme kind id ∧ Text.IsBare id.toList := by
  obtain ⟨⟨id, hparts, hnumeral⟩, -⟩ := parse_eq_ok_iff.mp h
  rw [hparts.exists_iff (P := fun _ _ id => Text.IsBare id.toList), hnumeral.isBare_iff,
    ← text_eq_iff, ← hparts.text]

-- A name that is written is read back as the same one, unless its parts cannot be told apart. A
-- name that was read is written in its own way: as it was spelled, or with a shorter number.
theorem text_roundTrips (urn : Urn) :
    (parse urn.text = .ok urn ↔ urn.IsWritable) ∧
      ∀ s, parse s = .ok urn → parse urn.text = .ok urn ∧ (urn.text = s ↔
        ∃ scheme kind id, HasParts s scheme kind id ∧ Text.IsBare id.toList) :=
  ⟨parse_text_iff, fun _ h =>
    ⟨parse_text_iff.mpr (isWritable_of_parse h), text_eq_iff_of_parse h⟩⟩

example : (parse "od:match:+0042").map text = .ok "od:match:42" := by decide

end Urn

end FeedWatch
