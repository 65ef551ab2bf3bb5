import Calculator.Proofs.LexicalErrors
import Calculator.Proofs.SyntaxErrors

/-! # The names a line can hold

A tree takes its names from `ident` tokens only, and at every position the lexer tries the
operators before a name: a letter starts a name only where no operator's spelling begins the
rest of the line. The names of a tree are therefore the words `[A-Za-z][A-Za-z0-9]*` that begin
with none of the operators spelled as words (`Lexeme.IsName`). Such a name, alone on a line, is
read as that variable, and `n <- 1` assigns it; a word that begins with a keyword is split
there, `orange` into `or` and `ange`, and is never one name.

The main statement is `parse_names_are_keyword_free_words`.
-/

namespace Calculator

set_option autoImplicit false

def Operator.keywords : List Operator :=
  [.and, .or, .not, .xor, .log, .ln, .sqrt, .sin, .cos, .tan, .ctg, .factorial]

namespace Lexeme

/-! ## Words and names -/

/-- A word: an ASCII letter, then ASCII letters and digits. -/
def IsWord : List Char → Prop
  | [] => False
  | c :: r => isLetter c = true ∧ r.all isNameChar = true

instance : DecidablePred IsWord
  | [] => isFalse id
  | _ :: _ => inferInstanceAs (Decidable (_ ∧ _))

/-- A name: a word that begins with no keyword. -/
def IsName (cs : List Char) : Prop :=
  IsWord cs ∧ ∀ op ∈ Operator.keywords, ¬ op.chars <+: cs

instance : DecidablePred IsName := fun _ => inferInstanceAs (Decidable (_ ∧ _))

theorem isNameChar_of_isLetter {c : Char} (h : isLetter c = true) : isNameChar c = true := by
  simp [isNameChar, h]

theorem keyword_isLetter : ∀ op ∈ Operator.keywords, op.chars.all isLetter = true := by
  decide

theorem keyword_eq_of_chars_prefix :
    ∀ op ∈ Operator.keywords, ∀ op' ∈ Operator.keywords, op.chars <+: op'.chars → op = op' := by
  decide

theorem mem_keywords_of_chars_prefix {op : Operator} {c : Char} {r : List Char}
    (hc : isLetter c = true) (h : op.chars <+: c :: r) : op ∈ Operator.keywords := by
  cases op
  case assign | plus | minus | star | slash | caret =>
    simp only [Operator.chars] at h
    obtain ⟨rfl, -⟩ := List.cons_prefix_cons.1 h
    exact absurd hc (by decide)
  all_goals decide

theorem prefix_of_prefix_append {p : Char → Bool} :
    ∀ {w xs ys : List Char}, (∀ d ∈ w, p d = true) → (∀ d ∈ ys.head?, p d = false) →
      w <+: xs ++ ys → w <+: xs
  | [], _, _, _, _, _ => List.nil_prefix
  | a :: w, [], ys, hw, hys, h => by
    cases ys with
    | nil => simp at h
    | cons d ys =>
      obtain ⟨rfl, -⟩ := List.cons_prefix_cons.1 h
      exact absurd (hw a List.mem_cons_self) (by simp [hys a rfl])
  | a :: w, x :: xs, ys, hw, hys, h => by
    rw [List.cons_append] at h
    obtain ⟨rfl, htail⟩ := List.cons_prefix_cons.1 h
    exact List.cons_prefix_cons.2
      ⟨rfl, prefix_of_prefix_append (fun d hd => hw d (List.mem_cons_of_mem a hd)) hys htail⟩

/-! ## What the lexer reads at a letter -/

theorem toNat_of_isLetter {c : Char} (hc : isLetter c = true) :
    (65 ≤ c.toNat ∧ c.toNat ≤ 90) ∨ (97 ≤ c.toNat ∧ c.toNat ≤ 122) := by
  simp only [isLetter, Bool.or_eq_true, Bool.and_eq_true, decide_eq_true_eq, Char.le_def,
    UInt32.le_iff_toNat_le] at hc
  simp at hc
  omega

theorem not_special_of_isLetter {c : Char} (hc : isLetter c = true) :
    c ≠ '(' ∧ c ≠ ')' ∧ Decimal.isDigit c = false ∧ Text.isBlank c = false := by
  have hn := toNat_of_isLetter hc
  refine ⟨?_, ?_, ?_, ?_⟩
  · rintro rfl
    simp at hn
  · rintro rfl
    simp at hn
  · simp only [Decimal.isDigit, Bool.and_eq_false_iff, decide_eq_false_iff_not, Char.le_def,
      UInt32.le_iff_toNat_le]
    simp
    omega
  · simp only [Text.isBlank, Bool.or_eq_false_iff, Bool.and_eq_false_iff, decide_eq_false_iff_not,
      beq_eq_false_iff_ne]
    omega

theorem next_of_operator? {c : Char} {r : List Char} {l : Lexeme (c :: r)}
    (hc : isLetter c = true) (h : operator? (c :: r) = some l) : next (c :: r) = .ok (some l) := by
  obtain ⟨h₁, h₂, h₃, h₄⟩ := not_special_of_isLetter hc
  simp [next, h₁, h₂, h₃, h₄, h]

theorem next_of_name {c : Char} {r : List Char} (hc : isLetter c = true)
    (h : operator? (c :: r) = none) : next (c :: r) = .ok (some (run .ident isNameChar c r)) := by
  obtain ⟨h₁, h₂, h₃, h₄⟩ := not_special_of_isLetter hc
  simp [next, h₁, h₂, h₃, h₄, h, hc]

theorem operator?_assign (r : List Char) :
    operator? ('<' :: '-' :: r) = some ⟨.operator .assign, ['<', '-'], r, rfl, by simp⟩ := rfl

theorem next_ident : ∀ {cs : List Char} {l : Lexeme cs}, next cs = .ok (some l) →
    l.kind = .ident → ∃ c r, cs = c :: r ∧ isLetter c = true ∧ operator? cs = none ∧
      l.taken = c :: r.takeWhile isNameChar
  | [], _, h, _ => by simp [next] at h
  | c :: r, l, h, hk => by
    rcases next_cons_cases h with hl | hl | ⟨-, hn⟩ | hl | hop | ⟨hop, hc, rfl⟩
    · rw [hl] at hk
      cases hk
    · rw [hl] at hk
      cases hk
    · have hnum := number_isNumber hn
      rw [hk] at hnum
      cases hnum
    · rw [hl] at hk
      cases hk
    · obtain ⟨op, hop', -⟩ := operator?_spelled hop
      rw [hop'] at hk
      cases hk
    · exact ⟨c, r, rfl, hc, hop, rfl⟩

theorem isName_of_next_ident {cs : List Char} {l : Lexeme cs} (h : next cs = .ok (some l))
    (hk : l.kind = .ident) : IsName l.taken := by
  obtain ⟨c, r, rfl, hc, hop, htaken⟩ := next_ident h hk
  have hpre : c :: r.takeWhile isNameChar <+: c :: r :=
    List.cons_prefix_cons.2 ⟨rfl, List.takeWhile_prefix _⟩
  rw [htaken]
  refine ⟨⟨hc, List.all_takeWhile⟩, fun op _ hop' => ?_⟩
  exact operator?_eq_none_iff.1 hop op (hop'.trans hpre)

end Lexeme

namespace Token

/-- The run lemma: every name token of a reading has a name as its literal. The induction
follows the reading, on the characters left. -/
theorem scan_ident_isName (offset : Nat) (cs : List Char) :
    ∀ t ∈ (scan offset cs).1, t.kind = .ident → Lexeme.IsName t.literal.toList :=
  match hn : Lexeme.next cs with
  | .error _ => by
    rw [scan_of_error hn]
    simp
  | .ok none => by
    rw [scan_of_none hn]
    simp
  | .ok (some l) => by
    rw [scan_of_some hn]
    intro t ht hk
    rcases List.mem_cons.1 ht with rfl | ht
    · rw [String.toList_ofList]
      exact Lexeme.isName_of_next_ident hn hk
    · exact scan_ident_isName _ l.left t ht hk
termination_by cs.length
decreasing_by exact l.shorter

end Token

/-! ## The names of a tree -/

theorem Phrase.names_tree {L : Level} (d : Phrase L) :
    ∀ n ∈ d.tree.names, ∃ t ∈ d.yield, t.kind = .ident ∧ t.literal = n := by
  induction d with
  | assign target arrow value htarget _ ih =>
    intro n hn
    rcases List.mem_cons.1 hn with rfl | hn
    · exact ⟨target, List.mem_cons_self, htarget, rfl⟩
    · obtain ⟨t, ht, hk, hl⟩ := ih n hn
      exact ⟨t, List.mem_cons_of_mem _ (List.mem_cons_of_mem _ ht), hk, hl⟩
  | plain p ih => exact ih
  | operand p ih => exact ih
  | binary left t o op ht hop right ihl ihr =>
    intro n hn
    rcases List.mem_append.1 hn with hn | hn
    · obtain ⟨t', ht', hk, hl⟩ := ihl n hn
      exact ⟨t', List.mem_append_left _ ht', hk, hl⟩
    · obtain ⟨t', ht', hk, hl⟩ := ihr n hn
      exact ⟨t', List.mem_append_right _ (List.mem_cons_of_mem _ ht'), hk, hl⟩
  | bare p ih => exact ih
  | prefixed t o op ht hop p ih =>
    intro n hn
    obtain ⟨t', ht', hk, hl⟩ := ih n hn
    exact ⟨t', List.mem_cons_of_mem _ ht', hk, hl⟩
  | paren o c inner ho hc ih =>
    intro n hn
    obtain ⟨t', ht', hk, hl⟩ := ih n hn
    exact ⟨t', List.mem_cons_of_mem _ (List.mem_append_left _ ht'), hk, hl⟩
  | ident t ht =>
    intro n hn
    rw [List.mem_singleton.1 hn]
    exact ⟨t, List.mem_singleton_self t, ht, rfl⟩
  | integer => simp [Phrase.tree, Expr.names]
  | float => simp [Phrase.tree, Expr.names]

theorem names_isName_of_parse {line : String} {e : Expr} (h : Expr.parse line = .ok e) :
    ∀ n ∈ e.names, Lexeme.IsName n.toList := by
  obtain ⟨-, d, hy, rfl⟩ := (Expr.parse_eq_ok_iff line e).1 h
  intro n hn
  obtain ⟨t, ht, hk, rfl⟩ := d.names_tree n hn
  rw [hy, Token.dropBlanks, List.mem_filter] at ht
  exact Token.scan_ident_isName 0 line.toList t ht.1 hk

/-! ## Every name can be read and assigned -/

theorem Lexeme.operator?_eq_none_of_isName {c : Char} {r rest : List Char}
    (hname : Lexeme.IsName (c :: r)) (hstop : ∀ d ∈ rest.head?, Lexeme.isNameChar d = false) :
    Lexeme.operator? (c :: (r ++ rest)) = none := by
  refine Lexeme.operator?_eq_none_iff.2 fun op hpre => ?_
  -- an operator there would be a keyword, all letters, so it would begin the name itself
  have hkey := Lexeme.mem_keywords_of_chars_prefix hname.1.1 hpre
  have hletters : ∀ d ∈ op.chars, Lexeme.isNameChar d = true := fun d hd =>
    Lexeme.isNameChar_of_isLetter (List.all_eq_true.1 (Lexeme.keyword_isLetter op hkey) d hd)
  rw [← List.cons_append] at hpre
  exact hname.2 op hkey (Lexeme.prefix_of_prefix_append hletters hstop hpre)

theorem Token.scan_name {c : Char} {r rest : List Char} (hname : Lexeme.IsName (c :: r))
    (hstop : ∀ d ∈ rest.head?, Lexeme.isNameChar d = false) (offset : Nat) :
    scan offset (c :: (r ++ rest)) =
      (⟨.ident, String.ofList (c :: r), offset⟩ ::
          (scan (offset + (String.ofList (c :: r)).utf8ByteSize) rest).1,
        (scan (offset + (String.ofList (c :: r)).utf8ByteSize) rest).2) := by
  have hrun : Lexeme.IsRun Lexeme.isNameChar r rest := ⟨List.all_eq_true.1 hname.1.2, hstop⟩
  rw [scan_of_some (Lexeme.next_of_name hname.1.1 (Lexeme.operator?_eq_none_of_isName hname hstop))]
  simp only [Lexeme.run, hrun.takeWhile_eq, hrun.dropWhile_eq]

theorem Token.scan_assign_one (offset : Nat) :
    scan offset [' ', '<', '-', ' ', '1'] =
      ([⟨.blank, " ", offset⟩, ⟨.operator .assign, "<-", offset + 1⟩, ⟨.blank, " ", offset + 3⟩,
        ⟨.integer 1 .decimal, "1", offset + 4⟩], none) := by
  rw [scan]
  simp +decide [Lexeme.next, Lexeme.run]
  rw [scan]
  simp +decide [Lexeme.next, Lexeme.operator?_assign]
  rw [scan]
  simp +decide [Lexeme.next, Lexeme.run]
  rw [scan]
  simp +decide [Lexeme.next, Lexeme.number, Lexeme.unprefixed, Lexeme.integer, Except.map]
  rw [scan]
  have hblank : " ".utf8ByteSize = 1 := rfl
  have harrow : "<-".utf8ByteSize = 2 := rfl
  simp [Lexeme.next, hblank, harrow]

theorem Lexeme.exists_cons_of_isName {cs : List Char} (h : Lexeme.IsName cs) :
    ∃ c r, cs = c :: r := by
  cases cs with
  | nil => exact h.1.elim
  | cons c r => exact ⟨c, r, rfl⟩

theorem Expr.parse_name {n : String} (h : Lexeme.IsName n.toList) : Expr.parse n = .ok (.var n) := by
  obtain ⟨c, r, hcr⟩ := Lexeme.exists_cons_of_isName h
  have hn : String.ofList (c :: r) = n := by rw [← hcr, String.ofList_toList]
  rw [hcr] at h
  have hscan : Token.scanLine n = ([⟨.ident, n, 0⟩], none) := by
    show Token.scan 0 n.toList = _
    rw [hcr, ← List.append_nil r, Token.scan_name h (by simp), hn, Token.scan_of_none rfl]
  rw [Expr.parse_eq_ok_iff, hscan]
  exact ⟨rfl, Phrase.name ⟨.ident, n, 0⟩ rfl .expression, rfl, rfl⟩

theorem Expr.parse_assign_one {n : String} (h : Lexeme.IsName n.toList) :
    Expr.parse (n ++ " <- 1") = .ok (.assign n (.lit (.int 1))) := by
  obtain ⟨c, r, hcr⟩ := Lexeme.exists_cons_of_isName h
  have hn : String.ofList (c :: r) = n := by rw [← hcr, String.ofList_toList]
  rw [hcr] at h
  have hscan : Token.scanLine (n ++ " <- 1") = ([⟨.ident, n, 0⟩, ⟨.blank, " ", n.utf8ByteSize⟩,
      ⟨.operator .assign, "<-", n.utf8ByteSize + 1⟩, ⟨.blank, " ", n.utf8ByteSize + 3⟩,
      ⟨.integer 1 .decimal, "1", n.utf8ByteSize + 4⟩], none) := by
    show Token.scan 0 (n ++ " <- 1").toList = _
    rw [String.toList_append, hcr, (by decide : " <- 1".toList = [' ', '<', '-', ' ', '1']),
      List.cons_append, Token.scan_name h (fun d hd => by cases hd; decide), hn, Nat.zero_add,
      Token.scan_assign_one]
  rw [Expr.parse_eq_ok_iff, hscan]
  exact ⟨rfl, .assign ⟨.ident, n, 0⟩ ⟨.operator .assign, "<-", n.utf8ByteSize + 1⟩
    (.operand (.operand (.operand (.bare
      (.integer ⟨.integer 1 .decimal, "1", n.utf8ByteSize + 4⟩ 1 .decimal rfl)))))
    rfl rfl, rfl, rfl⟩

/-! ## A word that begins with a keyword is split -/

/-- A word that begins with a keyword is cut after it: the lexer reads the keyword and moves on
to the rest. -/
theorem Lexer.nextToken_keyword {n : String} {op : Operator} {rest : List Char}
    (hop : op ∈ Operator.keywords) (hn : n.toList = op.chars ++ rest) :
    (Lexer.new n).nextToken =
      (.ok ⟨.operator op, op.spelling, 0⟩, ⟨op.spelling.utf8ByteSize, rest⟩) := by
  obtain ⟨c, w, hcw⟩ := List.exists_cons_of_ne_nil op.chars_ne_nil
  have hc : Lexeme.isLetter c = true :=
    List.all_eq_true.1 (Lexeme.keyword_isLetter op hop) c (by rw [hcw]; exact List.mem_cons_self)
  have hcs : n.toList = c :: (w ++ rest) := by rw [hn, hcw, List.cons_append]
  have hpre : op.chars <+: c :: (w ++ rest) := ⟨rest, hn.symm.trans hcs⟩
  -- some operator begins the word, and no other keyword's spelling begins where `op`'s does
  obtain ⟨l, hl⟩ : ∃ l, Lexeme.operator? (c :: (w ++ rest)) = some l :=
    Option.ne_none_iff_exists'.1 fun hnone => Lexeme.operator?_eq_none_iff.1 hnone op hpre
  obtain ⟨op', hk, htaken⟩ := Lexeme.operator?_spelled hl
  have hsplit : op'.chars ++ l.left = c :: (w ++ rest) := htaken ▸ l.split
  have hpre' : op'.chars <+: c :: (w ++ rest) := ⟨l.left, hsplit⟩
  have hop' := Lexeme.mem_keywords_of_chars_prefix hc hpre'
  obtain rfl : op' = op := by
    rcases List.prefix_or_prefix_of_prefix hpre' hpre with h | h
    · exact Lexeme.keyword_eq_of_chars_prefix op' hop' op hop h
    · exact (Lexeme.keyword_eq_of_chars_prefix op hop op' hop' h).symm
  have hleft : l.left = rest := List.append_cancel_left (hsplit.trans (hcs.symm.trans hn))
  have hnext := @Lexer.nextToken_of_some ⟨0, c :: (w ++ rest)⟩ l (Lexeme.next_of_operator? hc hl)
  show Lexer.nextToken ⟨0, n.toList⟩ = _
  rw [hcs, hnext, hk, htaken, hleft, Nat.zero_add]
  rfl

theorem not_mem_names_of_keyword {n : String} {op : Operator} {rest : List Char}
    (hop : op ∈ Operator.keywords) (hn : n.toList = op.chars ++ rest) {line : String} {e : Expr}
    (h : Expr.parse line = .ok e) : n ∉ e.names := fun hmem =>
  (names_isName_of_parse h n hmem).2 op hop ⟨rest, hn.symm⟩

example : ¬ Lexeme.IsName "orange".toList ∧ ¬ Lexeme.IsName "sinh".toList ∧
    Lexeme.IsName "x1".toList ∧ ¬ Lexeme.IsName "1x".toList := by
  decide

/-- The names of a line. Every name of a tree a line is read as is a word `[A-Za-z][A-Za-z0-9]*`
that begins with no keyword; every such name, alone on a line, is read as that variable, and
followed by `<- 1` as its assignment. A word that begins with a keyword is split after the
keyword, so no tree ever reads or assigns it. -/
theorem parse_names_are_keyword_free_words :
    (∀ (line : String) (e : Expr), Expr.parse line = .ok e → ∀ n ∈ e.names,
      Lexeme.IsName n.toList) ∧
    (∀ n : String, Lexeme.IsName n.toList →
      Expr.parse n = .ok (.var n) ∧ Expr.parse (n ++ " <- 1") = .ok (.assign n (.lit (.int 1)))) ∧
    (∀ (n : String) (op : Operator) (rest : List Char), op ∈ Operator.keywords →
      n.toList = op.chars ++ rest →
      (Lexer.new n).nextToken =
        (.ok ⟨.operator op, op.spelling, 0⟩, ⟨op.spelling.utf8ByteSize, rest⟩) ∧
      ∀ (line : String) (e : Expr), Expr.parse line = .ok e → n ∉ e.names) :=
  ⟨fun _ _ h => names_isName_of_parse h,
    fun _ h => ⟨Expr.parse_name h, Expr.parse_assign_one h⟩,
    fun _ _ _ hop hn => ⟨Lexer.nextToken_keyword hop hn,
      fun _ _ h => not_mem_names_of_keyword hop hn h⟩⟩

end Calculator
