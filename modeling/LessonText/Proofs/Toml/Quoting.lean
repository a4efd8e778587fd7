import LessonText.Proofs.Text.Runs
import LessonText.Toml.Written

/-! Quoted text is read back as it was written, in each of the four ways to quote it. A body is
written in units, one for each character; a quote that stands for itself is told from the closing
ones by how many follow it. -/

namespace LessonText.Toml.Quotation

variable {q : Quotation} {c d : Char} {rest t w : Text}

/-! Closing quotes -/

theorem delimiter_of_lines (h : q.lines) : q.delimiter = [q.quote, q.quote, q.quote] := by
  rw [delimiter, if_pos h]
  rfl

theorem delimiter_of_line (h : q.lines = false) : q.delimiter = [q.quote] := by
  rw [delimiter, if_neg (by simp [h])]
  rfl

theorem delimiter_eq_cons (q : Quotation) : q.delimiter = q.quote :: q.delimiter.tail := by
  cases hl : q.lines with
  | true => rw [delimiter_of_lines hl, List.tail_cons]
  | false => rw [delimiter_of_line hl, List.tail_cons]

theorem close?_replicate (hl : q.lines) (hrest : rest.head? ≠ some q.quote) {k : Nat} (hk : k ≤ 2) :
    q.close? (q.quote :: q.quote :: (List.replicate k q.quote ++ rest)) =
      some (List.replicate k q.quote, rest) := by
  have hquotes : Text.after? [q.quote, q.quote]
      (q.quote :: q.quote :: (List.replicate k q.quote ++ rest)) =
        some (List.replicate k q.quote ++ rest) :=
    Text.after?_eq_some_iff.2 rfl
  have hstop : rest.head?.any (· = q.quote) = false := by
    cases rest <;> simp_all
  have hmore : (List.replicate k q.quote ++ rest).takeWhile (· = q.quote) =
      List.replicate k q.quote :=
    Text.takeWhile_append_of_forall (by simp) hstop
  have htake : (List.replicate k q.quote).take 2 = List.replicate k q.quote :=
    List.take_of_length_le (by simpa using hk)
  rw [close?, if_pos hl, hquotes, Option.map_some, hmore, htake]
  simp only [List.drop_left]

theorem close?_delimiter (hrest : rest.head? ≠ some q.quote) :
    q.close? (q.delimiter.tail ++ rest) = some ([], rest) := by
  cases hl : q.lines with
  | true =>
    rw [delimiter_of_lines hl]
    exact close?_replicate hl hrest (Nat.zero_le 2)
  | false =>
    rw [delimiter_of_line hl, close?, if_neg (by simp [hl])]
    rfl

theorem close?_eq_none (hl : q.lines) (h : ¬[q.quote, q.quote] <+: t) : q.close? t = none := by
  have hnone : Text.after? [q.quote, q.quote] t = none := by
    rw [Option.eq_none_iff_forall_ne_some]
    intro r hr
    exact h ⟨r, (Text.after?_eq_some_iff.1 hr).symm⟩
  rw [close?, if_pos hl, hnone, Option.map_none]

/-- Whether a quote closes in front of the rest of a body, in which no two quotes come first: only
where the body ends, or ends with one quote more. -/
theorem close?_body (hl : q.lines) (hrest : rest.head? ≠ some q.quote)
    (hw : ¬[q.quote, q.quote] <+: w) :
    q.close? (w ++ q.delimiter ++ rest) =
      if w = [] then some ([q.quote], rest)
      else if w = [q.quote] then some ([q.quote, q.quote], rest)
      else none := by
  rw [delimiter_of_lines hl]
  match w with
  | [] => exact close?_replicate hl hrest (k := 1) (by decide)
  | [c] =>
    rw [if_neg (List.cons_ne_nil c [])]
    by_cases hc : c = q.quote
    · rw [hc, if_pos rfl]
      exact close?_replicate hl hrest (k := 2) (Nat.le_refl 2)
    · rw [if_neg (by simpa using hc), close?_eq_none hl]
      simp [List.cons_prefix_cons, Ne.symm hc]
  | c :: d :: w =>
    rw [if_neg (List.cons_ne_nil c _), if_neg (by simp), close?_eq_none hl]
    simpa [List.cons_prefix_cons] using hw

/-! Escapes -/

theorem readEscaped_backslash (rest : Text) :
    q.readEscaped .content ('\\' :: rest) = q.readEscaped .escape rest := by
  simp [readEscaped]

theorem readEscaped_letter (h : escaped? c = some d) (rest : Text) :
    q.readEscaped .content ('\\' :: c :: rest) = keep d (q.readEscaped .content rest) := by
  rw [readEscaped_backslash, readEscaped, h]

theorem readEscaped_shown (hquote : c ≠ '"') (hbackslash : c ≠ '\\') (h : q.admits c rest) :
    q.readEscaped .content (c :: rest) = keep c (q.readEscaped .content rest) := by
  simp [readEscaped, hquote, hbackslash, h]

theorem readEscaped_digit {v : Nat} (h : Number.digit? 16 c = some v) (more value : Nat)
    (rest : Text) : q.readEscaped (.codePoint (more + 1) value) (c :: rest) =
      q.readEscaped (.codePoint more (16 * value + v)) rest := by
  simp only [readEscaped, h]

theorem readEscaped_lastDigit {v : Nat} (h : Number.digit? 16 c = some v) (value : Nat)
    (rest : Text) : q.readEscaped (.codePoint 0 value) (c :: rest) =
      (ofCodePoint? (16 * value + v)).bind fun c => keep c (q.readEscaped .content rest) := by
  simp only [readEscaped, h]

theorem ofCodePoint?_toNat (c : Char) : ofCodePoint? c.toNat = some c := by
  have hc : c.toNat.isValidChar := c.valid
  rw [ofCodePoint?, dif_pos hc]
  rfl

def hexDigit (n : Nat) : Char :=
  (Nat.digitChar n).toUpper

theorem digit?_hexDigit : ∀ n < 16, Number.digit? 16 (hexDigit n) = some n := by
  decide

theorem codePoint_ofNat : ∀ n < 128,
    codePoint (Char.ofNat n) = ['\\', 'u', '0', '0', hexDigit (n / 16), hexDigit (n % 16)] := by
  decide

theorem readEscaped_start (rest : Text) :
    q.readEscaped .escape ('u' :: rest) = q.readEscaped (.codePoint 3 0) rest := by
  rw [readEscaped]
  rfl

theorem toNat_lt_of_not_isShown (hc : isShown c = false) : c.toNat < 128 := by
  rw [isShown, Bool.or_eq_false_iff, Bool.and_eq_false_iff] at hc
  obtain ⟨-, hlow | hhigh⟩ := hc
  · have h : c < ' ' := by simpa using hlow
    exact Nat.lt_trans h (by decide)
  · have h : c = '\x7f' := by simpa using hhigh
    rw [h]
    decide

theorem readEscaped_codePoint (hc : isShown c = false) (rest : Text) :
    q.readEscaped .content (codePoint c ++ rest) = keep c (q.readEscaped .content rest) := by
  have hlt := toNat_lt_of_not_isShown hc
  have hdigits := codePoint_ofNat c.toNat hlt
  rw [Char.ofNat_toNat] at hdigits
  have hzero : Number.digit? 16 '0' = some 0 := by decide
  have hhigh := digit?_hexDigit (c.toNat / 16) (by omega)
  have hlow := digit?_hexDigit (c.toNat % 16) (by omega)
  have hvalue : 16 * (16 * (16 * (16 * 0 + 0) + 0) + c.toNat / 16) + c.toNat % 16 = c.toNat := by
    omega
  rw [hdigits, List.cons_append, readEscaped_backslash, List.cons_append, readEscaped_start]
  simp only [List.cons_append, List.nil_append]
  rw [readEscaped_digit hzero, readEscaped_digit hzero, readEscaped_digit hhigh,
    readEscaped_lastDigit hlow, hvalue, ofCodePoint?_toNat, Option.bind_some]

/-! Units -/

def Plain (q : Quotation) (c : Char) : Prop :=
  isShown c ∨ c = '\n' ∧ q.lines

theorem Plain.admits (h : q.Plain c) (rest : Text) : q.admits c rest := by
  obtain hc | ⟨rfl, hl⟩ := h
  · simp [Quotation.admits, hc]
  · simp [Quotation.admits, breaks, isLineEnd, hl]

theorem Plain.ne_return (h : q.Plain c) : c ≠ '\r' := by
  rintro rfl
  simp [Plain, isShown] at h

inductive Spells (q : Quotation) (c : Char) : Text → Prop
  | plain (hplain : q.Plain c) (hbackslash : c ≠ '\\') : Spells q c [c]
  | letter {a : Char} (h : escaped? a = some c) : Spells q c ['\\', a]
  | codePoint (h : isShown c = false) : Spells q c (codePoint c)

theorem spells_escape? (q : Quotation) (c : Char) : q.Spells c ((q.escape? c).getD [c]) := by
  unfold escape?
  split
  · exact .letter rfl
  · exact .letter rfl
  · by_cases hl : q.lines
    · rw [if_pos hl]
      exact .plain (.inr ⟨rfl, hl⟩) (by decide)
    · rw [if_neg hl]
      exact .letter rfl
  · exact .letter rfl
  · exact .letter rfl
  · exact .letter rfl
  next hbackslash =>
    by_cases hshown : isShown c
    · rw [if_pos hshown]
      exact .plain (.inl hshown) hbackslash
    · rw [if_neg hshown]
      exact .codePoint (by simpa using hshown)

theorem Spells.readEscaped {u : Text} (h : q.Spells c u) (hc : c ≠ '"') (rest : Text) :
    q.readEscaped .content (u ++ rest) = keep c (q.readEscaped .content rest) := by
  cases h with
  | plain hplain hbackslash => exact readEscaped_shown hc hbackslash (hplain.admits rest)
  | letter h => exact readEscaped_letter h rest
  | codePoint h => exact readEscaped_codePoint h rest

theorem Spells.exists_eq_cons {u : Text} (h : q.Spells c u) (hc : c ≠ '"') :
    ∃ d e, u = d :: e ∧ d ≠ '"' ∧ d ≠ '\r' ∧ (d = '\n' → c = '\n') := by
  cases h with
  | plain hplain hbackslash => exact ⟨c, [], rfl, hc, hplain.ne_return, id⟩
  | letter h =>
    exact ⟨'\\', _, rfl, by decide, by decide, fun h => absurd h (by decide)⟩
  | codePoint h =>
    exact ⟨'\\', _, rfl, by decide, by decide, fun h => absurd h (by decide)⟩

/-! Bodies with escapes -/

theorem escapeFrom_cons_of_ne (run : Nat) (hc : c ≠ '"') (t : Text) :
    q.escapeFrom run (c :: t) = (q.escape? c).getD [c] ++ q.escapeFrom 0 t := by
  rw [escapeFrom, if_neg hc]

theorem escapeFrom_quote {run : Nat} (h : run < 2 ∧ q.lines) (t : Text) :
    q.escapeFrom run ('"' :: t) = '"' :: q.escapeFrom (run + 1) t := by
  rw [escapeFrom, if_pos rfl, if_pos h]

theorem escapeFrom_escapedQuote {run : Nat} (h : ¬(run < 2 ∧ q.lines)) (t : Text) :
    q.escapeFrom run ('"' :: t) = '\\' :: '"' :: q.escapeFrom 0 t := by
  rw [escapeFrom, if_pos rfl, if_neg h]
  rfl

theorem escapeFrom_cons (q : Quotation) (run : Nat) (c : Char) (t : Text) :
    (c = '"' ∧ run < 2 ∧ q.lines) ∨
      ∃ d e, q.escapeFrom run (c :: t) = d :: e ∧ d ≠ '"' ∧ d ≠ '\r' ∧ (d = '\n' → c = '\n') := by
  by_cases hc : c = '"'
  · subst hc
    by_cases h : run < 2 ∧ q.lines
    · exact .inl ⟨rfl, h⟩
    · refine .inr ⟨'\\', _, escapeFrom_escapedQuote h t, by decide, by decide, ?_⟩
      exact fun h => absurd h (by decide)
  · obtain ⟨d, e, hu, h⟩ := (spells_escape? q c).exists_eq_cons hc
    refine .inr ⟨d, e ++ q.escapeFrom 0 t, ?_, h⟩
    rw [escapeFrom_cons_of_ne run hc, hu, List.cons_append]

theorem escapeFrom_eq_nil_iff {run : Nat} : q.escapeFrom run t = [] ↔ t = [] := by
  cases t with
  | nil => simp [escapeFrom]
  | cons c t =>
    obtain ⟨rfl, h⟩ | ⟨d, e, h, -⟩ := escapeFrom_cons q run c t
    · simp [escapeFrom_quote h]
    · simp [h]

theorem eq_quote_of_escapeFrom {run : Nat} (h : q.escapeFrom run t = ['"']) : t = ['"'] := by
  cases t with
  | nil => simp [escapeFrom] at h
  | cons c t =>
    obtain ⟨rfl, hrun⟩ | ⟨d, e, hd, hquote, -⟩ := escapeFrom_cons q run c t
    · rw [escapeFrom_quote hrun, List.cons.injEq, escapeFrom_eq_nil_iff] at h
      rw [h.2]
    · rw [hd] at h
      exact absurd (List.cons.inj h).1 hquote

/-- After a quote that stands for itself there is at most one more. -/
theorem not_quotes_prefix_escapeFrom (run : Nat) (t : Text) :
    ¬['"', '"'] <+: q.escapeFrom (run + 1) t := by
  cases t with
  | nil => simp [escapeFrom]
  | cons c t =>
    obtain ⟨rfl, hrun, hl⟩ | ⟨d, e, hd, hquote, -⟩ := escapeFrom_cons q (run + 1) c t
    · rw [escapeFrom_quote ⟨hrun, hl⟩, List.cons_prefix_cons]
      rintro ⟨-, htail⟩
      cases t with
      | nil => simp [escapeFrom] at htail
      | cons d t =>
        obtain ⟨rfl, hmore, -⟩ | ⟨d', e, hd, hquote, -⟩ := escapeFrom_cons q (run + 2) d t
        · omega
        · rw [hd, List.cons_prefix_cons] at htail
          exact hquote htail.1.symm
    · rw [hd, List.cons_prefix_cons]
      exact fun h => hquote h.1.symm

theorem readQuote (hl : q.lines) (hrest : rest.head? ≠ some q.quote)
    (hw : ¬[q.quote, q.quote] <+: w) (hnil : w = [] → t = []) (hone : w = [q.quote] → t = [q.quote])
    {read : Option (Text × Text)} (hread : read = some (t, rest)) :
    (q.close? (w ++ q.delimiter ++ rest)).or (keep q.quote read) = some (q.quote :: t, rest) := by
  rw [close?_body hl hrest hw]
  by_cases hempty : w = []
  · rw [if_pos hempty, hnil hempty, Option.some_or]
  · rw [if_neg hempty]
    by_cases hquote : w = [q.quote]
    · rw [if_pos hquote, hone hquote, Option.some_or]
    · rw [if_neg hquote, hread, Option.none_or]
      rfl

theorem quote_of_escapes (h : q.escapes) : q.quote = '"' := by
  rw [quote, if_pos h]

theorem readEscaped_quote (rest : Text) :
    q.readEscaped .content ('"' :: rest) =
      (q.close? rest).or (keep '"' (q.readEscaped .content rest)) := by
  simp only [readEscaped]
  cases q.close? rest <;> simp

theorem readEscaped_escapeFrom (h : q.escapes) (hrest : rest.head? ≠ some q.quote) (run : Nat)
    (t : Text) :
    q.readEscaped .content (q.escapeFrom run t ++ q.delimiter ++ rest) = some (t, rest) := by
  have hquote := quote_of_escapes h
  induction t generalizing run with
  | nil =>
    rw [escapeFrom, List.nil_append, delimiter_eq_cons, List.cons_append, hquote,
      readEscaped_quote, close?_delimiter hrest, Option.some_or]
  | cons c t ih =>
    by_cases hc : c = '"'
    · subst hc
      by_cases hrun : run < 2 ∧ q.lines
      · have htwo : ¬[q.quote, q.quote] <+: q.escapeFrom (run + 1) t := by
          rw [hquote]
          exact not_quotes_prefix_escapeFrom run t
        have hone : q.escapeFrom (run + 1) t = [q.quote] → t = [q.quote] := by
          rw [hquote]
          exact eq_quote_of_escapeFrom
        have hkept := readQuote hrun.2 hrest htwo escapeFrom_eq_nil_iff.1 hone (ih (run + 1))
        rw [escapeFrom_quote hrun, List.cons_append, List.cons_append, readEscaped_quote, ← hquote,
          hkept]
      · rw [escapeFrom_escapedQuote hrun]
        simp only [List.cons_append]
        rw [readEscaped_letter rfl, ih 0]
        rfl
    · rw [escapeFrom_cons_of_ne run hc, List.append_assoc, List.append_assoc,
        (spells_escape? q c).readEscaped hc, ← List.append_assoc, ih 0]
      rfl

/-! Bodies without escapes -/

theorem readPlain_quote (rest : Text) :
    q.readPlain (q.quote :: rest) =
      (q.close? rest).or (keep q.quote (q.readPlain rest)) := by
  rw [readPlain, if_pos rfl]
  cases q.close? rest <;> rfl

theorem readPlain_append (hplain : ∀ c ∈ t, q.Plain c) (hruns : ¬q.delimiter <:+: t)
    (hrest : rest.head? ≠ some q.quote) :
    q.readPlain (t ++ q.delimiter ++ rest) = some (t, rest) := by
  induction t with
  | nil =>
    rw [List.nil_append, delimiter_eq_cons, List.cons_append, readPlain_quote,
      close?_delimiter hrest, Option.some_or]
  | cons c t ih =>
    rw [List.forall_mem_cons] at hplain
    have htail := ih hplain.2 fun h => hruns (h.trans (List.suffix_cons c t).isInfix)
    rw [List.cons_append, List.cons_append]
    by_cases hc : c = q.quote
    · subst hc
      cases hl : q.lines with
      | false =>
        rw [delimiter_of_line hl] at hruns
        exact absurd ⟨[], t, rfl⟩ hruns
      | true =>
        rw [delimiter_of_lines hl] at hruns
        have htwo : ¬[q.quote, q.quote] <+: t := fun h =>
          hruns ((List.cons_prefix_cons.2 ⟨rfl, h⟩).isInfix)
        rw [readPlain_quote, readQuote hl hrest htwo id id htail]
    · rw [readPlain, if_neg hc, if_pos (hplain.1.admits _), htail]
      rfl

end LessonText.Toml.Quotation
