import Calculator.Proofs.Tiling
import Mathlib.Data.List.TakeDrop
import Mathlib.Data.Nat.Digits.Defs

/-! # Numbers on a line

At a digit the lexer reads a number, in the first of three forms that fits:

1. `0x`, `0o` or `0b` and the longest run of at least one digit of base 16, 8 or 2
   (`Lexeme.PrefixedAt`): an integer whose 32 bits, read unsigned, are the value of the digits,
   or an error when that value needs more than 32 bits;
2. else the longest run of digits followed by a point (`Lexeme.PointedAt`): a float whose
   literal is the digits, the point and the longest run of digits after it, and whose value is
   what that text reads as (`Decimal.readFloat?`);
3. else the longest run of digits (`Lexeme.DecimalAt`): a decimal integer with the value of the
   digits, or an error when it is above `2 ^ 31 - 1`.

The value of a run of digits is `Nat.ofDigits` of their values, least significant first;
leading zeros count for nothing. An error stands at the first character of the number, as long
as its literal (a number is ASCII, so its bytes are its characters), and the lexer stays there.

`Lexeme.view` forgets the proofs a lexeme carries, so that what the lexer reads can be stated
as plain data. The main statement is `nextToken_reads_number`: the three forms, and that a
number below `2 ^ 31` is the same 32-bit integer in each of its four spellings.
-/

namespace Calculator

set_option autoImplicit false

/-- The value of a run of digits in a radix, most significant first. -/
def Radix.valueOf (radix : Radix) (ds : List Char) : Nat :=
  Nat.ofDigits radix.base (ds.map Lexeme.digitValue).reverse

namespace Lexeme

open Decimal

/-! ## Runs of characters -/

/-- `ds` is the longest run of characters of class `p` at the front of `ds ++ rest`. -/
structure IsRun (p : Char → Bool) (ds rest : List Char) : Prop where
  all : ∀ d ∈ ds, p d = true
  stops : ∀ d ∈ rest.head?, p d = false

namespace IsRun

variable {p : Char → Bool} {ds rest : List Char}

theorem takeWhile_eq (h : IsRun p ds rest) : (ds ++ rest).takeWhile p = ds := by
  rw [List.takeWhile_append_of_pos h.all]
  cases rest with
  | nil => simp
  | cons d r => simp [List.takeWhile_cons_of_neg, h.stops d rfl]

theorem dropWhile_eq (h : IsRun p ds rest) : (ds ++ rest).dropWhile p = rest := by
  rw [List.dropWhile_append_of_pos h.all]
  cases rest with
  | nil => simp
  | cons d r => simp [List.dropWhile_cons_of_neg, h.stops d rfl]

theorem span_eq (h : IsRun p ds rest) : (ds ++ rest).span p = (ds, rest) := by
  rw [List.span_eq_takeWhile_dropWhile, h.takeWhile_eq, h.dropWhile_eq]

theorem cons {c : Char} (hc : p c = true) (h : IsRun p ds rest) : IsRun p (c :: ds) rest :=
  ⟨fun d hd => (List.mem_cons.1 hd).elim (fun e => e ▸ hc) (h.all d), h.stops⟩

theorem of_cons {c : Char} (h : IsRun p (c :: ds) rest) : IsRun p ds rest :=
  ⟨fun d hd => h.all d (List.mem_cons_of_mem c hd), h.stops⟩

end IsRun

theorem isRun_takeWhile (p : Char → Bool) (cs : List Char) :
    IsRun p (cs.takeWhile p) (cs.dropWhile p) := by
  refine ⟨fun d hd => List.all_eq_true.1 List.all_takeWhile d hd, fun d hd => ?_⟩
  have h := List.head?_dropWhile_not p cs
  rw [Option.mem_def] at hd
  rw [hd] at h
  exact h

/-! ## Digits and their value -/

theorem foldl_digits (base : Nat) (f : Char → Nat) (ds : List Char) (a : Nat) :
    ds.foldl (fun acc c => acc * base + f c) a =
      a * base ^ ds.length + Nat.ofDigits base (ds.map f).reverse := by
  induction ds generalizing a with
  | nil => simp
  | cons d ds ih =>
    rw [List.foldl_cons, ih, List.map_cons, List.reverse_cons, Nat.ofDigits_append,
      List.length_reverse, List.length_map, Nat.ofDigits_singleton, List.length_cons, pow_succ]
    ring

theorem digitsValue_eq_ofDigits (base : Nat) (f : Char → Nat) (ds : List Char) :
    digitsValue base f ds = Nat.ofDigits base (ds.map f).reverse := by
  rw [digitsValue, foldl_digits, Nat.zero_mul, Nat.zero_add]

theorem digitValue_of_isDigit {c : Char} (h : isDigit c = true) :
    digitValue c = decimalDigitValue c := by
  simp [digitValue, decimalDigitValue, h]

theorem decimalValue_eq_ofDigits {ds : List Char} (h : ∀ d ∈ ds, isDigit d = true) :
    decimalValue ds = Nat.ofDigits 10 (ds.map digitValue).reverse := by
  rw [decimalValue, digitsValue_eq_ofDigits,
    List.map_congr_left fun d hd => (digitValue_of_isDigit (h d hd)).symm]

/-! ## Literals are ASCII -/

theorem utf8Size_of_le {c : Char} (h : c ≤ 'z') : c.utf8Size = 1 := by
  rw [Char.utf8Size_eq_one_iff]
  simp only [Char.le_def, UInt32.le_iff_toNat_le] at h ⊢
  simp at h ⊢
  omega

theorem le_z_of_isRadixDigit {radix : Radix} {c : Char} (h : isRadixDigit radix c = true) :
    c ≤ 'z' := by
  cases radix with
  | binary =>
    simp only [isRadixDigit, Bool.or_eq_true, decide_eq_true_eq] at h
    rcases h with rfl | rfl <;> decide
  | octal =>
    simp only [isRadixDigit, Bool.and_eq_true, decide_eq_true_eq] at h
    exact Char.le_trans h.2 (by decide)
  | decimal =>
    simp only [isRadixDigit, isDigit, Bool.and_eq_true, decide_eq_true_eq] at h
    exact Char.le_trans h.2 (by decide)
  | hex =>
    simp only [isRadixDigit, isDigit, Bool.or_eq_true, Bool.and_eq_true, decide_eq_true_eq] at h
    rcases h with (⟨-, h⟩ | ⟨-, h⟩) | ⟨-, h⟩ <;> exact Char.le_trans h (by decide)

theorem utf8ByteSize_ofList_of_le {cs : List Char} (h : ∀ c ∈ cs, c ≤ 'z') :
    (String.ofList cs).utf8ByteSize = cs.length := by
  induction cs with
  | nil => rfl
  | cons c cs ih =>
    rw [String.ofList_cons, String.utf8ByteSize_append, String.utf8ByteSize_singleton,
      utf8Size_of_le (h c List.mem_cons_self), ih fun d hd => h d (List.mem_cons_of_mem c hd),
      List.length_cons, Nat.add_comm]

/-! ## The three forms of a number -/

/-- The letters after `0` that announce a radix. -/
def radixLetters : List (Char × Radix) :=
  [('x', .hex), ('o', .octal), ('b', .binary)]

theorem radixOfPrefix_eq_some_iff (letter : Char) (radix : Radix) :
    radixOfPrefix letter = some radix ↔ (letter, radix) ∈ radixLetters := by
  unfold radixOfPrefix
  split <;> simp_all [radixLetters, eq_comm]

theorem radixLetters_letter {letter : Char} {radix : Radix} (h : (letter, radix) ∈ radixLetters) :
    isDigit letter = false ∧ letter ≠ '.' ∧ letter ≤ 'z' := by
  simp only [radixLetters, List.mem_cons, Prod.mk.injEq, List.not_mem_nil, or_false] at h
  rcases h with ⟨rfl, rfl⟩ | ⟨rfl, rfl⟩ | ⟨rfl, rfl⟩ <;> decide

/-- Form (1) at the front of `cs`: `0`, a radix letter and the longest run of at least one
digit of that radix, then `rest`. -/
structure PrefixedAt (cs : List Char) (letter : Char) (radix : Radix) (ds rest : List Char) :
    Prop where
  split : cs = '0' :: letter :: (ds ++ rest)
  letter_mem : (letter, radix) ∈ radixLetters
  nonempty : ds ≠ []
  run : IsRun (isRadixDigit radix) ds rest

/-- Form (2) at the front of `cs`: digits, a point and the longest run of digits after it,
then `rest`. -/
structure PointedAt (cs whole fraction rest : List Char) : Prop where
  split : cs = whole ++ '.' :: (fraction ++ rest)
  nonempty : whole ≠ []
  whole_digits : ∀ d ∈ whole, isDigit d = true
  run : IsRun isDigit fraction rest

/-- Form (3) at the front of `cs`: the longest run of digits, then `rest`, when no point
follows the run and no prefixed literal starts at `cs`. -/
structure DecimalAt (cs ds rest : List Char) : Prop where
  split : cs = ds ++ rest
  nonempty : ds ≠ []
  run : IsRun isDigit ds rest
  no_point : rest.head? ≠ some '.'
  not_prefixed : ∀ letter radix ds' rest', ¬ PrefixedAt cs letter radix ds' rest'

theorem PointedAt.not_prefixed {cs whole fraction rest : List Char}
    (h : PointedAt cs whole fraction rest) (letter : Char) (radix : Radix) (ds rest' : List Char) :
    ¬ PrefixedAt cs letter radix ds rest' := by
  intro hp
  obtain ⟨hdigit, hpoint, -⟩ := radixLetters_letter hp.letter_mem
  obtain ⟨w, ws, rfl⟩ := List.exists_cons_of_ne_nil h.nonempty
  have hsplit := h.split.symm.trans hp.split
  cases ws with
  | nil =>
    simp only [List.cons_append, List.nil_append, List.cons.injEq] at hsplit
    exact hpoint hsplit.2.1.symm
  | cons w' ws =>
    simp only [List.cons_append, List.cons.injEq] at hsplit
    have hw' := h.whole_digits w' (by simp)
    rw [hsplit.2.1, hdigit] at hw'
    cases hw'

theorem PrefixedAt.size_literal {cs : List Char} {letter : Char} {radix : Radix}
    {ds rest : List Char} (h : PrefixedAt cs letter radix ds rest) :
    (String.ofList ('0' :: letter :: ds)).utf8ByteSize = ds.length + 2 := by
  rw [utf8ByteSize_ofList_of_le]
  · rfl
  · intro d hd
    rcases List.mem_cons.1 hd with rfl | hd
    · decide
    rcases List.mem_cons.1 hd with rfl | hd
    · exact (radixLetters_letter h.letter_mem).2.2
    · exact le_z_of_isRadixDigit (h.run.all d hd)

theorem DecimalAt.size_literal {cs ds rest : List Char} (h : DecimalAt cs ds rest) :
    (String.ofList ds).utf8ByteSize = ds.length :=
  utf8ByteSize_ofList_of_le fun c hc =>
    le_z_of_isRadixDigit (show isRadixDigit .decimal c = true from h.run.all c hc)

/-- Every number has one of the three forms: a prefixed literal if one starts there, else a
float literal if a point follows the digits, else a decimal literal. -/
theorem forms_of_isDigit {c : Char} {r : List Char} (hc : isDigit c = true) :
    (∃ letter radix ds rest, PrefixedAt (c :: r) letter radix ds rest) ∨
      (∃ whole fraction rest, PointedAt (c :: r) whole fraction rest) ∨
      ∃ ds rest, DecimalAt (c :: r) ds rest := by
  by_cases hp : ∃ letter radix ds rest, PrefixedAt (c :: r) letter radix ds rest
  · exact .inl hp
  have hrun := (isRun_takeWhile isDigit r).cons hc
  have hsplit : c :: r = (c :: r.takeWhile isDigit) ++ r.dropWhile isDigit := by simp
  by_cases hpoint : (r.dropWhile isDigit).head? = some '.'
  · -- the digits stop at a point: a float literal
    obtain ⟨after, hafter⟩ : ∃ after, r.dropWhile isDigit = '.' :: after := by
      cases hdrop : r.dropWhile isDigit with
      | nil => rw [hdrop] at hpoint; cases hpoint
      | cons d after =>
        rw [hdrop, List.head?_cons, Option.some.injEq] at hpoint
        exact ⟨after, by rw [hpoint]⟩
    refine .inr (.inl ⟨c :: r.takeWhile isDigit, after.takeWhile isDigit, after.dropWhile isDigit,
      ?_, by simp, hrun.all, isRun_takeWhile isDigit after⟩)
    rw [hsplit, hafter, List.takeWhile_append_dropWhile]
  · refine .inr (.inr ⟨c :: r.takeWhile isDigit, r.dropWhile isDigit, hsplit, by simp, hrun,
      hpoint, fun letter radix ds rest hpre => hp ⟨letter, radix, ds, rest, hpre⟩⟩)

/-! ## What the lexer reads at a digit -/

/-- A lexeme without the proofs it carries: its token kind, what it takes and what it leaves. -/
def view {cs : List Char} (l : Lexeme cs) : TokenKind × List Char × List Char :=
  (l.kind, l.taken, l.left)

theorem integer_view {cs : List Char} {radix : Radix} {value bound : Nat} {taken left : List Char}
    {split : taken ++ left = cs} {nonempty : taken ≠ []} :
    (integer radix value bound taken left split nonempty).map view =
      if value < bound then .ok (.integer (Int32.ofNat value) radix, taken, left)
      else .error taken.length := by
  unfold integer
  split <;> rfl

theorem number_view_of_prefixedAt {c : Char} {r : List Char} {letter : Char} {radix : Radix}
    {ds rest : List Char} (h : PrefixedAt (c :: r) letter radix ds rest) :
    (number c r).map view =
      if radix.valueOf ds < 2 ^ 32 then
        .ok (.integer (Int32.ofNat (radix.valueOf ds)) radix, '0' :: letter :: ds, rest)
      else .error (String.ofList ('0' :: letter :: ds)).utf8ByteSize := by
  have hsize := h.size_literal
  obtain ⟨hsplit, hmem, hne, hrun⟩ := h
  obtain ⟨rfl, rfl⟩ := List.cons.inj hsplit
  have hletter := (radixOfPrefix_eq_some_iff letter radix).2 hmem
  have hds : ((ds ++ rest).takeWhile (isRadixDigit radix)).isEmpty = false := by
    rw [hrun.takeWhile_eq]
    simpa using hne
  simp only [number, hletter, hds]
  rw [if_neg Bool.false_ne_true, integer_view, hrun.takeWhile_eq, hrun.dropWhile_eq, hsize,
    digitsValue_eq_ofDigits, ← Radix.valueOf, Nat.pow_eq]
  rfl

theorem number_eq_unprefixed {c : Char} {r : List Char}
    (h : ∀ letter radix ds rest, ¬ PrefixedAt (c :: r) letter radix ds rest) :
    number c r = unprefixed c r := by
  unfold number
  split
  · rename_i p rest
    cases hp : radixOfPrefix p with
    | none => rfl
    | some radix =>
      dsimp only
      split
      · rfl
      · -- a prefix letter with a digit after it would be a prefixed literal
        rename_i hds
        refine absurd ⟨?_, (radixOfPrefix_eq_some_iff p radix).1 hp, ?_,
          isRun_takeWhile (isRadixDigit radix) rest⟩ (h p radix _ _)
        · simp
        · simpa using hds
  · rfl

theorem unprefixed_view_of_pointedAt {c : Char} {r whole fraction rest : List Char}
    (h : PointedAt (c :: r) whole fraction rest) :
    (unprefixed c r).map view =
      .ok (.float (toFloat (decimalValue (whole ++ fraction)) (-(fraction.length : Int))),
        whole ++ '.' :: fraction, rest) := by
  obtain ⟨hsplit, hne, hwhole, hrun⟩ := h
  obtain ⟨w, ws, rfl⟩ := List.exists_cons_of_ne_nil hne
  simp only [List.cons_append, List.cons.injEq] at hsplit
  obtain ⟨rfl, rfl⟩ := hsplit
  -- the digits after the first stop at the point
  have hws : IsRun isDigit ws ('.' :: (fraction ++ rest)) :=
    ⟨fun d hd => hwhole d (List.mem_cons_of_mem _ hd), by simp [isDigit]⟩
  unfold unprefixed
  dsimp only
  split
  · rename_i afterPoint hdrop
    rw [hws.dropWhile_eq, List.cons.injEq] at hdrop
    obtain ⟨-, rfl⟩ := hdrop
    simp only [Except.map, view, hws.takeWhile_eq, hrun.takeWhile_eq, hrun.dropWhile_eq,
      List.cons_append]
  · rename_i hnot
    exact absurd (hws.dropWhile_eq.trans rfl) (hnot (fraction ++ rest))

theorem unprefixed_view_of_decimalAt {c : Char} {r ds rest : List Char}
    (h : DecimalAt (c :: r) ds rest) :
    (unprefixed c r).map view =
      if Radix.decimal.valueOf ds < 2 ^ 31 then
        .ok (.integer (Int32.ofNat (Radix.decimal.valueOf ds)) .decimal, ds, rest)
      else .error (String.ofList ds).utf8ByteSize := by
  have hsize := h.size_literal
  have hvalue : decimalValue ds = Radix.decimal.valueOf ds := decimalValue_eq_ofDigits h.run.all
  obtain ⟨hsplit, hne, hrun, hpoint, -⟩ := h
  obtain ⟨d, ds', rfl⟩ := List.exists_cons_of_ne_nil hne
  simp only [List.cons_append, List.cons.injEq] at hsplit
  obtain ⟨rfl, rfl⟩ := hsplit
  have hds' := hrun.of_cons
  unfold unprefixed
  dsimp only
  split
  · rename_i afterPoint hdrop
    rw [hds'.dropWhile_eq] at hdrop
    exact absurd (by rw [hdrop]; rfl) hpoint
  · rename_i hdrop
    rw [integer_view, hds'.takeWhile_eq, hds'.dropWhile_eq, hvalue, hsize, Nat.pow_eq]

theorem number_view_of_pointedAt {c : Char} {r whole fraction rest : List Char}
    (h : PointedAt (c :: r) whole fraction rest) :
    (number c r).map view =
      .ok (.float (toFloat (decimalValue (whole ++ fraction)) (-(fraction.length : Int))),
        whole ++ '.' :: fraction, rest) := by
  rw [number_eq_unprefixed h.not_prefixed, unprefixed_view_of_pointedAt h]

theorem number_view_of_decimalAt {c : Char} {r ds rest : List Char}
    (h : DecimalAt (c :: r) ds rest) :
    (number c r).map view =
      if Radix.decimal.valueOf ds < 2 ^ 31 then
        .ok (.integer (Int32.ofNat (Radix.decimal.valueOf ds)) .decimal, ds, rest)
      else .error (String.ofList ds).utf8ByteSize := by
  rw [number_eq_unprefixed h.not_prefixed, unprefixed_view_of_decimalAt h]

/-! ## The value of a float literal -/

theorem toLower_of_isDigit {c : Char} (h : isDigit c = true) : c.toLower = c := by
  simp only [isDigit, Bool.and_eq_true, decide_eq_true_eq] at h
  unfold Char.toLower
  split
  · rename_i hupper
    have h₁ := h.2
    have h₂ := hupper.1
    simp only [Char.le_def, UInt32.le_iff_toNat_le, ge_iff_le] at h₁ h₂
    simp at h₁ h₂
    omega
  · rfl

theorem readMagnitude?_pointed {whole fraction : List Char} (hne : whole ≠ [])
    (hwhole : ∀ d ∈ whole, isDigit d = true) (hfraction : ∀ d ∈ fraction, isDigit d = true) :
    readMagnitude? (whole ++ '.' :: fraction) =
      some (toFloat (decimalValue (whole ++ fraction)) (-(fraction.length : Int))) := by
  obtain ⟨w, ws, rfl⟩ := List.exists_cons_of_ne_nil hne
  have hw : isDigit w = true := hwhole w List.mem_cons_self
  -- the text starts with a digit, so it is none of the words for infinity and NaN
  have hword : ∀ c cs, lowerAscii (w :: ws ++ '.' :: fraction) = c :: cs → isDigit c = true := by
    intro c cs h
    simp only [lowerAscii, List.cons_append, List.map_cons, List.cons.injEq] at h
    rw [← h.1, toLower_of_isDigit hw]
    exact hw
  have hinf : lowerAscii (w :: ws ++ '.' :: fraction) ≠ "inf".toList := fun h =>
    absurd (hword _ _ (h.trans (by decide : "inf".toList = ['i', 'n', 'f']))) (by decide)
  have hinfinity : lowerAscii (w :: ws ++ '.' :: fraction) ≠ "infinity".toList := fun h =>
    absurd (hword _ _ (h.trans
      (by decide : "infinity".toList = ['i', 'n', 'f', 'i', 'n', 'i', 't', 'y']))) (by decide)
  have hnan : lowerAscii (w :: ws ++ '.' :: fraction) ≠ "nan".toList := fun h =>
    absurd (hword _ _ (h.trans (by decide : "nan".toList = ['n', 'a', 'n']))) (by decide)
  have hspan : (w :: ws ++ '.' :: fraction).span isDigit = (w :: ws, '.' :: fraction) :=
    IsRun.span_eq ⟨hwhole, by simp [isDigit]⟩
  have hend : IsRun isDigit fraction [] := ⟨hfraction, by simp⟩
  have hspan' : fraction.span isDigit = (fraction, []) := by
    simpa using hend.span_eq
  simp only [readMagnitude?, hspan, hspan', decide_eq_false hinf, decide_eq_false hinfinity,
    Bool.or_false, Bool.false_eq_true, if_false, if_neg hnan, List.isEmpty_cons, Bool.false_and,
    Option.map_some, Int.zero_sub]

theorem readFloat?_pointed {whole fraction : List Char} (hne : whole ≠ [])
    (hwhole : ∀ d ∈ whole, isDigit d = true) (hfraction : ∀ d ∈ fraction, isDigit d = true) :
    readFloat? (String.ofList (whole ++ '.' :: fraction)) =
      some (toFloat (decimalValue (whole ++ fraction)) (-(fraction.length : Int))) := by
  obtain ⟨w, ws, rfl⟩ := List.exists_cons_of_ne_nil hne
  have hw : isDigit w = true := hwhole w List.mem_cons_self
  simp only [readFloat?, String.toList_ofList]
  -- a digit is no sign
  split
  · rename_i r h
    rw [List.cons_append, List.cons.injEq] at h
    rw [h.1] at hw
    cases hw
  · rename_i r h
    rw [List.cons_append, List.cons.injEq] at h
    rw [h.1] at hw
    cases hw
  · exact readMagnitude?_pointed hne hwhole hfraction

theorem next_of_isDigit {c : Char} {r : List Char} (hc : isDigit c = true) :
    next (c :: r) = (number c r).map some := by
  have hopen : c ≠ '(' := by
    rintro rfl
    cases hc
  have hclose : c ≠ ')' := by
    rintro rfl
    cases hc
  rw [next, if_neg hopen, if_neg hclose, if_pos hc]

end Lexeme

/-! ## Spellings of a number -/

/-- How a number is written in a radix: its digits (`Nat.toDigits`, lower case), after `0b`,
`0o` or `0x` unless the radix is decimal. -/
def Radix.spell : Radix → Nat → List Char
  | .binary, n => '0' :: 'b' :: Nat.toDigits 2 n
  | .octal, n => '0' :: 'o' :: Nat.toDigits 8 n
  | .decimal, n => Nat.toDigits 10 n
  | .hex, n => '0' :: 'x' :: Nat.toDigits 16 n

namespace Lexeme

theorem digitValue_digitChar : ∀ d < 16, digitValue (Nat.digitChar d) = d := by
  decide

theorem isRadixDigit_digitChar (radix : Radix) :
    ∀ d < radix.base, isRadixDigit radix (Nat.digitChar d) = true := by
  cases radix <;> decide

theorem exists_digitChar_of_mem_toDigits {b : Nat} (hb : 1 < b) (n : Nat) :
    ∀ c ∈ Nat.toDigits b n, ∃ d < b, c = Nat.digitChar d := by
  induction n using Nat.strong_induction_on with
  | _ n ih =>
    intro c hc
    rw [Nat.toDigits_eq_if hb] at hc
    split at hc
    · exact ⟨n, by omega, List.mem_singleton.1 hc⟩
    · rcases List.mem_append.1 hc with hc | hc
      · exact ih (n / b) (Nat.div_lt_self (by omega) hb) c hc
      · exact ⟨n % b, Nat.mod_lt n (by omega), List.mem_singleton.1 hc⟩

theorem ofDigits_toDigits {b : Nat} (hb : 1 < b) (hb16 : b ≤ 16) (n : Nat) :
    Nat.ofDigits b ((Nat.toDigits b n).map digitValue).reverse = n := by
  induction n using Nat.strong_induction_on with
  | _ n ih =>
    rw [Nat.toDigits_eq_if hb]
    split
    · simp [digitValue_digitChar n (by omega)]
    · rw [List.map_append, List.reverse_append, List.map_singleton, List.reverse_singleton,
        List.singleton_append, Nat.ofDigits_cons,
        digitValue_digitChar (n % b) (by have := Nat.mod_lt n (by omega : b > 0); omega),
        ih (n / b) (Nat.div_lt_self (by omega) hb)]
      exact Nat.mod_add_div n b

end Lexeme

/-! ## Calls of the lexer at a digit -/

/-- The signed value of a 32-bit integer from its bits read unsigned: the same below `2 ^ 31`,
and `2 ^ 32` less from there on, so `0xFFFFFFFF` is `-1`. -/
theorem Int32.toInt_eq_toUInt32 (k : Int32) :
    k.toInt = if k.toUInt32.toNat < 2 ^ 31 then (k.toUInt32.toNat : Int)
      else k.toUInt32.toNat - 2 ^ 32 := by
  rw [← Int32.toInt_toBitVec, BitVec.toInt_eq_toNat_cond]
  have h : k.toUInt32.toNat = k.toBitVec.toNat := rfl
  rw [h]
  by_cases hlt : k.toBitVec.toNat < 2 ^ 31
  · rw [if_pos (by omega), if_pos hlt]
  · rw [if_neg (by omega), if_neg hlt]
    simp

namespace Lexer

open Lexeme Decimal

theorem nextToken_of_number_ok {lx : Lexer} {c : Char} {r : List Char} (hrest : lx.rest = c :: r)
    (hc : isDigit c = true) {kind : TokenKind} {taken left : List Char}
    (h : (number c r).map view = .ok (kind, taken, left)) :
    lx.nextToken = (.ok ⟨kind, String.ofList taken, lx.offset⟩,
      ⟨lx.offset + (String.ofList taken).utf8ByteSize, left⟩) := by
  obtain ⟨offset, rest⟩ := lx
  dsimp only at hrest
  subst hrest
  cases hn : number c r with
  | error n =>
    rw [hn] at h
    cases h
  | ok l =>
    rw [hn] at h
    simp only [Except.map, view, Except.ok.injEq, Prod.mk.injEq] at h
    obtain ⟨rfl, rfl, rfl⟩ := h
    exact nextToken_of_some (by rw [next_of_isDigit hc, hn]; rfl)

theorem nextToken_of_number_error {lx : Lexer} {c : Char} {r : List Char}
    (hrest : lx.rest = c :: r) (hc : isDigit c = true) {n : Nat}
    (h : (number c r).map view = .error n) :
    lx.nextToken = (.error ⟨lx.offset, n⟩, lx) := by
  obtain ⟨offset, rest⟩ := lx
  dsimp only at hrest
  subst hrest
  cases hn : number c r with
  | error n' =>
    rw [hn] at h
    cases h
    exact nextToken_of_error (by rw [next_of_isDigit hc, hn]; rfl)
  | ok l =>
    rw [hn] at h
    cases h

theorem nextToken_of_prefixedAt {lx : Lexer} {letter : Char} {radix : Radix}
    {ds rest : List Char} (h : PrefixedAt lx.rest letter radix ds rest) :
    (radix.valueOf ds < 2 ^ 32 → ∃ n : Int32, n.toUInt32.toNat = radix.valueOf ds ∧
      lx.nextToken = (.ok ⟨.integer n radix, String.ofList ('0' :: letter :: ds), lx.offset⟩,
        ⟨lx.offset + (String.ofList ('0' :: letter :: ds)).utf8ByteSize, rest⟩)) ∧
    (2 ^ 32 ≤ radix.valueOf ds →
      lx.nextToken = (.error ⟨lx.offset, (String.ofList ('0' :: letter :: ds)).utf8ByteSize⟩, lx)) := by
  have hview := number_view_of_prefixedAt (c := '0') (r := letter :: (ds ++ rest))
    ⟨rfl, h.letter_mem, h.nonempty, h.run⟩
  refine ⟨fun hlt => ⟨Int32.ofNat (radix.valueOf ds), ?_, ?_⟩, fun hge => ?_⟩
  · rw [Int32.toUInt32_ofNat', UInt32.toNat_ofNat_of_lt' hlt]
  · rw [if_pos hlt] at hview
    exact nextToken_of_number_ok h.split rfl hview
  · rw [if_neg (Nat.not_lt.2 hge)] at hview
    exact nextToken_of_number_error h.split rfl hview

theorem nextToken_of_pointedAt {lx : Lexer} {whole fraction rest : List Char}
    (h : PointedAt lx.rest whole fraction rest) :
    ∃ x : Float, readFloat? (String.ofList (whole ++ '.' :: fraction)) = some x ∧
      lx.nextToken = (.ok ⟨.float x, String.ofList (whole ++ '.' :: fraction), lx.offset⟩,
        ⟨lx.offset + (String.ofList (whole ++ '.' :: fraction)).utf8ByteSize, rest⟩) := by
  obtain ⟨w, ws, hw⟩ := List.exists_cons_of_ne_nil h.nonempty
  have hrest : lx.rest = w :: (ws ++ '.' :: (fraction ++ rest)) := by
    rw [h.split, hw, List.cons_append]
  have hview := number_view_of_pointedAt (c := w) (r := ws ++ '.' :: (fraction ++ rest))
    ⟨by rw [← hrest, h.split], h.nonempty, h.whole_digits, h.run⟩
  have hdigit : isDigit w = true := h.whole_digits w (by simp [hw])
  exact ⟨_, readFloat?_pointed h.nonempty h.whole_digits h.run.all,
    nextToken_of_number_ok hrest hdigit hview⟩

theorem nextToken_of_decimalAt {lx : Lexer} {ds rest : List Char} (h : DecimalAt lx.rest ds rest) :
    (Radix.decimal.valueOf ds < 2 ^ 31 → ∃ n : Int32, n.toInt = Radix.decimal.valueOf ds ∧
      lx.nextToken = (.ok ⟨.integer n .decimal, String.ofList ds, lx.offset⟩,
        ⟨lx.offset + (String.ofList ds).utf8ByteSize, rest⟩)) ∧
    (2 ^ 31 ≤ Radix.decimal.valueOf ds →
      lx.nextToken = (.error ⟨lx.offset, (String.ofList ds).utf8ByteSize⟩, lx)) := by
  obtain ⟨d, ds', hds⟩ := List.exists_cons_of_ne_nil h.nonempty
  have hrest : lx.rest = d :: (ds' ++ rest) := by
    rw [h.split, hds, List.cons_append]
  have hview := number_view_of_decimalAt (c := d) (r := ds' ++ rest)
    ⟨by rw [← hrest, h.split], h.nonempty, h.run, h.no_point, by rw [← hrest]; exact h.not_prefixed⟩
  have hdigit : isDigit d = true := h.run.all d (by simp [hds])
  refine ⟨fun hlt => ⟨Int32.ofNat (Radix.decimal.valueOf ds), Int32.toInt_ofNat_of_lt hlt, ?_⟩,
    fun hge => ?_⟩
  · rw [if_pos hlt] at hview
    exact nextToken_of_number_ok hrest hdigit hview
  · rw [if_neg (Nat.not_lt.2 hge)] at hview
    exact nextToken_of_number_error hrest hdigit hview

/-- A number below `2 ^ 31` written in any radix is read whole, as one integer token of that
radix whose value is the number. -/
theorem nextToken_spell {n : Nat} (hn : n < 2 ^ 31) (radix : Radix) :
    ∃ k : Int32, k.toInt = n ∧
      (Lexer.new (String.ofList (radix.spell n))).nextToken.1 =
        .ok ⟨.integer k radix, String.ofList (radix.spell n), 0⟩ := by
  have hbase : 1 < radix.base ∧ radix.base ≤ 16 := by
    cases radix <;> decide
  have hvalue : radix.valueOf (Nat.toDigits radix.base n) = n :=
    ofDigits_toDigits hbase.1 hbase.2 n
  have hrun : IsRun (isRadixDigit radix) (Nat.toDigits radix.base n) [] := by
    refine ⟨fun c hc => ?_, by simp⟩
    obtain ⟨d, hd, rfl⟩ := exists_digitChar_of_mem_toDigits hbase.1 n c hc
    exact isRadixDigit_digitChar radix d hd
  -- a prefixed spelling is read as its digits' 32 bits, which are the number
  have hprefixed : ∀ letter, (letter, radix) ∈ radixLetters →
      radix.spell n = '0' :: letter :: Nat.toDigits radix.base n →
      ∃ k : Int32, k.toInt = n ∧
        (Lexer.new (String.ofList (radix.spell n))).nextToken.1 =
          .ok ⟨.integer k radix, String.ofList (radix.spell n), 0⟩ := by
    intro letter hmem hspell
    have hp : PrefixedAt (Lexer.new (String.ofList (radix.spell n))).rest letter radix
        (Nat.toDigits radix.base n) [] :=
      ⟨by rw [new_rest, String.toList_ofList, hspell, List.append_nil], hmem,
        Nat.toDigits_ne_nil, hrun⟩
    obtain ⟨k, hk, heq⟩ := (nextToken_of_prefixedAt hp).1 (by rw [hvalue]; omega)
    refine ⟨k, ?_, by rw [heq, hspell]; rfl⟩
    rw [Int32.toInt_eq_toUInt32, hk, hvalue, if_pos hn]
  cases radix with
  | binary => exact hprefixed 'b' (by decide) rfl
  | octal => exact hprefixed 'o' (by decide) rfl
  | hex => exact hprefixed 'x' (by decide) rfl
  | decimal =>
    -- a decimal spelling is its digits alone: no point and no radix letter follows them
    have hd : DecimalAt (Lexer.new (String.ofList (Radix.decimal.spell n))).rest
        (Nat.toDigits 10 n) [] := by
      refine ⟨by simp [Radix.spell], Nat.toDigits_ne_nil, hrun, by simp, ?_⟩
      intro letter radix' ds' rest' hp
      have hsplit := hp.split
      simp only [new_rest, String.toList_ofList, Radix.spell] at hsplit
      have hletter : letter ∈ Nat.toDigits 10 n := by
        rw [hsplit]
        simp
      obtain ⟨d, hd, rfl⟩ := exists_digitChar_of_mem_toDigits (by decide) n letter hletter
      have hdigit := (radixLetters_letter hp.letter_mem).1
      rw [show isDigit (Nat.digitChar d) = true from isRadixDigit_digitChar .decimal d hd] at hdigit
      cases hdigit
    have hvalue' : Radix.decimal.valueOf (Nat.toDigits 10 n) = n := hvalue
    obtain ⟨k, hk, heq⟩ := (nextToken_of_decimalAt hd).1 (by rw [hvalue']; exact hn)
    exact ⟨k, by rw [hk, hvalue'], by rw [heq]; rfl⟩

end Lexer

/-- How the lexer reads a number at a digit, in the first of three forms that fits. A prefixed
integer is the 32-bit pattern of its digits' value, or an error when that value needs more
than 32 bits; a float has the value its literal reads as; a decimal integer has its digits'
value, or an error above `2 ^ 31 - 1`. An error stands at the number's first character, as long
as its literal, and leaves the lexer where it is; a token moves the lexer past its literal. A
number below `2 ^ 31` is the same 32-bit integer in each of its four spellings. -/
theorem nextToken_reads_number :
    (∀ (lx : Lexer) (letter : Char) (radix : Radix) (ds rest : List Char),
      Lexeme.PrefixedAt lx.rest letter radix ds rest →
      (radix.valueOf ds < 2 ^ 32 → ∃ n : Int32, n.toUInt32.toNat = radix.valueOf ds ∧
        lx.nextToken = (.ok ⟨.integer n radix, String.ofList ('0' :: letter :: ds), lx.offset⟩,
          ⟨lx.offset + (String.ofList ('0' :: letter :: ds)).utf8ByteSize, rest⟩)) ∧
      (2 ^ 32 ≤ radix.valueOf ds → lx.nextToken =
        (.error ⟨lx.offset, (String.ofList ('0' :: letter :: ds)).utf8ByteSize⟩, lx))) ∧
    (∀ (lx : Lexer) (whole fraction rest : List Char),
      Lexeme.PointedAt lx.rest whole fraction rest →
      ∃ x : Float, Decimal.readFloat? (String.ofList (whole ++ '.' :: fraction)) = some x ∧
        lx.nextToken = (.ok ⟨.float x, String.ofList (whole ++ '.' :: fraction), lx.offset⟩,
          ⟨lx.offset + (String.ofList (whole ++ '.' :: fraction)).utf8ByteSize, rest⟩)) ∧
    (∀ (lx : Lexer) (ds rest : List Char), Lexeme.DecimalAt lx.rest ds rest →
      (Radix.decimal.valueOf ds < 2 ^ 31 → ∃ n : Int32, n.toInt = Radix.decimal.valueOf ds ∧
        lx.nextToken = (.ok ⟨.integer n .decimal, String.ofList ds, lx.offset⟩,
          ⟨lx.offset + (String.ofList ds).utf8ByteSize, rest⟩)) ∧
      (2 ^ 31 ≤ Radix.decimal.valueOf ds →
        lx.nextToken = (.error ⟨lx.offset, (String.ofList ds).utf8ByteSize⟩, lx))) ∧
    (∀ n : Nat, n < 2 ^ 31 → ∀ radix : Radix, ∃ k : Int32, k.toInt = n ∧
      (Lexer.new (String.ofList (radix.spell n))).nextToken.1 =
        .ok ⟨.integer k radix, String.ofList (radix.spell n), 0⟩) :=
  ⟨fun _ _ _ _ _ h => Lexer.nextToken_of_prefixedAt h,
    fun _ _ _ _ h => Lexer.nextToken_of_pointedAt h,
    fun _ _ _ h => Lexer.nextToken_of_decimalAt h,
    fun _ hn radix => Lexer.nextToken_spell hn radix⟩

end Calculator
