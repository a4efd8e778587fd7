import LessonText.Proofs.Toml.Quoting

namespace LessonText.Toml.Quotation

variable {q : Quotation} {c : Char} {n : Nat} {rest t : Text}

/-! Runs of a character -/

def extendRun (c : Char) : Nat × Nat → Char → Nat × Nat
  | (run, most), d => if d = c then (run + 1, max most (run + 1)) else (0, most)

theorem longestRun_eq_foldl (c : Char) (t : Text) :
    longestRun c t = (t.foldl (extendRun c) (0, 0)).2 := rfl

theorem le_foldl_extendRun (c : Char) (t : Text) (run most : Nat) :
    most ≤ (t.foldl (extendRun c) (run, most)).2 := by
  induction t generalizing run most with
  | nil => exact Nat.le_refl most
  | cons d t ih =>
    rw [List.foldl_cons, extendRun]
    split
    · exact Nat.le_trans (Nat.le_max_left _ _) (ih _ _)
    · exact ih _ _

theorem le_foldl_replicate (c : Char) (k : Nat) (t : Text) (run most : Nat) :
    run + k + 1 ≤ ((List.replicate (k + 1) c ++ t).foldl (extendRun c) (run, most)).2 := by
  induction k generalizing run most with
  | zero =>
    rw [List.replicate_one, List.singleton_append, List.foldl_cons, extendRun, if_pos rfl]
    exact Nat.le_trans (Nat.le_max_right _ _) (le_foldl_extendRun c t _ _)
  | succ k ih =>
    rw [List.replicate_succ, List.cons_append, List.foldl_cons, extendRun, if_pos rfl]
    have h := ih (run + 1) (max most (run + 1))
    omega

theorem not_infix_of_longestRun (h : longestRun c t ≤ n) :
    ¬List.replicate (n + 1) c <:+: t := by
  rintro ⟨before, behind, rfl⟩
  rw [longestRun_eq_foldl, List.append_assoc, List.foldl_append] at h
  generalize before.foldl (extendRun c) (0, 0) = reached at h
  obtain ⟨run, most⟩ := reached
  have hrun := le_foldl_replicate c n behind run most
  omega

/-! Texts that need no escapes -/

theorem not_delimiter_infix (h : longestRun q.quote t ≤ if q.lines then 2 else 0) :
    ¬q.delimiter <:+: t := by
  cases hl : q.lines with
  | true =>
    rw [delimiter_of_lines hl]
    exact not_infix_of_longestRun (n := 2) (by simpa [hl] using h)
  | false =>
    rw [delimiter_of_line hl]
    exact not_infix_of_longestRun (n := 0) (by simpa [hl] using h)

theorem plain_of_suits (h : q.suits t) (hc : c ∈ t) : q.Plain c := by
  simp only [suits, Bool.and_eq_true, List.all_eq_true] at h
  simpa [Plain] using h.1.1 c hc

theorem not_delimiter_infix_of_suits (h : q.suits t) : ¬q.delimiter <:+: t := by
  simp only [suits, Bool.and_eq_true, decide_eq_true_eq] at h
  exact not_delimiter_infix h.2

/-! Writing -/

def body (q : Quotation) (t : Text) : Text :=
  if q.escapes then q.escapeFrom 0 t else t

/-- A quotation that may write a text: all has an escape, or nothing needs one. -/
def Writes (q : Quotation) (t : Text) : Prop :=
  q.escapes ∨ q.suits t

theorem write_eq (q : Quotation) (t : Text) :
    q.write t = q.delimiter ++ ((if q.lines ∧ '\n' ∈ t then ['\n'] else []) ++
      (q.body t ++ q.delimiter)) := by
  simp [write, body]

theorem readBody (h : q.Writes t) (hrest : rest.head? ≠ some q.quote) :
    (if q.escapes then q.readEscaped .content (q.body t ++ q.delimiter ++ rest)
      else q.readPlain (q.body t ++ q.delimiter ++ rest)) = some (t, rest) := by
  by_cases he : q.escapes
  · rw [if_pos he, body, if_pos he]
    exact readEscaped_escapeFrom he hrest 0 t
  · have hsuits : q.suits t := h.resolve_left he
    rw [if_neg he, body, if_neg he]
    exact readPlain_append (fun c hc => plain_of_suits hsuits hc)
      (not_delimiter_infix_of_suits hsuits) hrest

theorem skipLineEnd_of_head (hfeed : t.head? ≠ some '\n') (hreturn : t.head? ≠ some '\r') :
    skipLineEnd t = t := by
  unfold skipLineEnd
  split
  · exact absurd rfl hfeed
  · exact absurd rfl hreturn
  · rfl

theorem head?_body (h : q.Writes t) (hfeed : '\n' ∉ t) :
    (q.body t).head? ≠ some '\n' ∧ (q.body t).head? ≠ some '\r' := by
  cases t with
  | nil => simp [body, escapeFrom]
  | cons c t =>
    have hc : c ≠ '\n' := fun hc => hfeed (hc ▸ List.mem_cons_self)
    rw [body]
    by_cases he : q.escapes
    · rw [if_pos he]
      obtain ⟨rfl, hrun⟩ | ⟨d, e, hd, -, hreturn, hd'⟩ := escapeFrom_cons q 0 c t
      · simp [escapeFrom_quote hrun]
      · rw [hd]
        exact ⟨fun h => hc (hd' (Option.some.inj h)), fun h => hreturn (Option.some.inj h)⟩
    · have hplain := plain_of_suits (h.resolve_left he) List.mem_cons_self
      rw [if_neg he]
      exact ⟨fun h => hc (Option.some.inj h), fun h => hplain.ne_return (Option.some.inj h)⟩

theorem quote_ne_lineEnd (q : Quotation) : q.quote ≠ '\n' ∧ q.quote ≠ '\r' := by
  rw [quote]
  split <;> decide

theorem skipLineEnd_body (h : q.Writes t) (hfeed : '\n' ∉ t) (rest : Text) :
    skipLineEnd (q.body t ++ q.delimiter ++ rest) = q.body t ++ q.delimiter ++ rest := by
  have hquote := quote_ne_lineEnd q
  have hhead := head?_body h hfeed
  rw [delimiter_eq_cons, List.append_assoc, List.cons_append]
  cases hbody : q.body t with
  | nil =>
    refine skipLineEnd_of_head ?_ ?_
    · simpa using hquote.1
    · simpa using hquote.2
  | cons c u =>
    rw [hbody] at hhead
    exact skipLineEnd_of_head hhead.1 hhead.2

theorem readRest_write (h : q.Writes t) (hrest : rest.head? ≠ some q.quote) :
    q.readRest ((if q.lines ∧ '\n' ∈ t then ['\n'] else []) ++
      (q.body t ++ q.delimiter ++ rest)) = some (t, rest) := by
  have hbody := readBody h hrest
  have hstart : (if q.lines then skipLineEnd ((if q.lines ∧ '\n' ∈ t then ['\n'] else []) ++
      (q.body t ++ q.delimiter ++ rest)) else (if q.lines ∧ '\n' ∈ t then ['\n'] else []) ++
      (q.body t ++ q.delimiter ++ rest)) = q.body t ++ q.delimiter ++ rest := by
    by_cases hl : q.lines
    · rw [if_pos hl]
      by_cases hfeed : '\n' ∈ t
      · rw [if_pos ⟨hl, hfeed⟩]
        rfl
      · rw [if_neg (fun h => hfeed h.2), List.nil_append, skipLineEnd_body h hfeed]
    · rw [if_neg hl, if_neg (fun h => hl h.1), List.nil_append]
  rw [readRest, hstart, hbody]

/-! Telling the ways apart -/

theorem head?_body_of_line (h : q.Writes t) (hl : q.lines = false) :
    (q.body t).head? ≠ some q.quote := by
  cases t with
  | nil => simp [body, escapeFrom]
  | cons c t =>
    rw [body]
    by_cases he : q.escapes
    · rw [if_pos he, quote_of_escapes he]
      obtain ⟨-, -, hlines⟩ | ⟨d, e, hd, hquote, -⟩ := escapeFrom_cons q 0 c t
      · simp [hl] at hlines
      · rw [hd]
        exact fun h => hquote (Option.some.inj h)
    · have hruns := not_delimiter_infix_of_suits (h.resolve_left he)
      rw [delimiter_of_line hl] at hruns
      rw [if_neg he]
      intro hc
      rw [← Option.some.inj hc] at hruns
      exact hruns ⟨[], t, rfl⟩

theorem after?_delimiter_lines (h : q.Writes t) (hl : q.lines = false)
    (hrest : rest.head? ≠ some q.quote) :
    Text.after? [q.quote, q.quote, q.quote] (q.write t ++ rest) = none := by
  have hhead := head?_body_of_line h hl
  rw [write_eq, delimiter_of_line hl, if_neg (by simp [hl]), List.nil_append]
  cases hbody : q.body t with
  | nil =>
    cases rest with
    | nil => simp [Text.after?]
    | cons c rest =>
      have hc : q.quote ≠ c := fun hc => hrest (congrArg some hc.symm)
      simp [Text.after?, hc]
  | cons c u =>
    have hc : q.quote ≠ c := by
      rintro rfl
      rw [hbody] at hhead
      exact hhead rfl
    simp [Text.after?, hc]

theorem after?_delimiter (q : Quotation) (t rest : Text) :
    Text.after? q.delimiter (q.write t ++ rest) =
      some ((if q.lines ∧ '\n' ∈ t then ['\n'] else []) ++ (q.body t ++ q.delimiter ++ rest)) := by
  rw [Text.after?_eq_some_iff, write_eq]
  simp only [List.append_assoc]

theorem after?_of_other_quote {u : Text} (hc : u.head? = some c) (hne : q.quote ≠ c) :
    Text.after? q.delimiter u = none := by
  rw [delimiter_eq_cons]
  cases u with
  | nil => contradiction
  | cons d u =>
    rw [← Option.some.inj hc] at hne
    simp [Text.after?, hne]

theorem head?_write (q : Quotation) (t rest : Text) :
    (q.write t ++ rest).head? = some q.quote := by
  rw [write_eq, delimiter_eq_cons]
  rfl

theorem eq_one_of_four (q : Quotation) :
    q = basicLines ∨ q = plainLines ∨ q = basic ∨ q = plain := by
  match q with
  | ⟨true, true⟩ => exact .inl rfl
  | ⟨false, true⟩ => exact .inr (.inl rfl)
  | ⟨true, false⟩ => exact .inr (.inr (.inl rfl))
  | ⟨false, false⟩ => exact .inr (.inr (.inr rfl))

/-- Of the ways to quote, the one that a text was written in is the first whose quotes are there. -/
theorem findSome?_write (h : q.Writes t) (hrest : rest.head? ≠ some q.quote) :
    ([basicLines, plainLines, basic, plain].findSome? fun p =>
      (Text.after? p.delimiter (q.write t ++ rest)).map (p, ·)) =
        (Text.after? q.delimiter (q.write t ++ rest)).map (q, ·) := by
  have hhead := head?_write q t rest
  have hself := after?_delimiter q t rest
  obtain rfl | rfl | rfl | rfl := eq_one_of_four q
  · simp only [List.findSome?_cons, hself, Option.map_some]
  · have h₁ := after?_of_other_quote (q := basicLines) hhead (by decide)
    simp only [List.findSome?_cons, h₁, hself, Option.map_none, Option.map_some]
  · have h₁ : Text.after? basicLines.delimiter (basic.write t ++ rest) = none :=
      after?_delimiter_lines h rfl hrest
    have h₂ := after?_of_other_quote (q := plainLines) hhead (by decide)
    simp only [List.findSome?_cons, h₁, h₂, hself, Option.map_none, Option.map_some]
  · have h₁ := after?_of_other_quote (q := basicLines) hhead (by decide)
    have h₂ : Text.after? plainLines.delimiter (plain.write t ++ rest) = none :=
      after?_delimiter_lines h rfl hrest
    have h₃ := after?_of_other_quote (q := basic) hhead (by decide)
    simp only [List.findSome?_cons, h₁, h₂, h₃, hself, Option.map_none, Option.map_some]

theorem read?_write (h : q.Writes t) (hrest : rest.head? ≠ some q.quote) :
    read? (q.write t ++ rest) = some (t, rest) := by
  rw [read?, readAs?, findSome?_write h hrest, after?_delimiter, Option.map_some, Option.bind_some]
  exact readRest_write h hrest

theorem writes_choose (t : Text) : (choose t).Writes t := by
  rw [choose]
  split
  next q hq => exact .inr (List.find?_some (p := fun q : Quotation => q.suits t) hq)
  · split
    · exact .inl rfl
    · exact .inl rfl

end LessonText.Toml.Quotation
