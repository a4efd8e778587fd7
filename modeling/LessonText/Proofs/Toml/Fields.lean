import LessonText.Proofs.Toml.Arrays

/-! A document of one table is read back, field after field: each line adds its field to what the
lines before it gave. -/

namespace LessonText.Toml

variable {c : Char} {n : Nat} {name rest t u : Text} {fs : Table}

/-! Keys -/

structure IsBareName (name : Text) : Prop where
  ne_nil : name ≠ []
  bare : ∀ c ∈ name, isBare c

theorem IsBareName.exists_append_eq_cons (h : IsBareName name) (rest : Text) :
    ∃ c t, name ++ rest = c :: t ∧ isBare c := by
  obtain ⟨c, s, rfl⟩ := List.exists_cons_of_ne_nil h.ne_nil
  exact ⟨c, s ++ rest, rfl, h.bare c List.mem_cons_self⟩

theorem skipBlanks_of_not_isSpacing (hc : isSpacing c = false) (t : Text) :
    skipBlanks (c :: t) = c :: t :=
  List.dropWhile_cons_of_neg (by simp [hc])

theorem simpleKey?_append (h : IsBareName name) (hrest : rest.head?.any isBare = false) :
    simpleKey? (name ++ rest) = some (name, rest) := by
  have htake : (name ++ rest).takeWhile isBare = name :=
    Text.takeWhile_append_of_forall h.bare hrest
  rw [simpleKey?, htake]
  split
  · exact absurd rfl h.ne_nil
  · rw [List.drop_left]

theorem readFrom_of_no_dot (h : (skipBlanks t).head? ≠ some '.') :
    Key.readFrom n name t = some (⟨[], name⟩, t) := by
  unfold Key.readFrom
  split
  next heq =>
    rw [heq] at h
    exact absurd rfl h
  · rfl

theorem read?_key (h : IsBareName name) (hrest : rest.head?.any isBare = false)
    (hdot : (skipBlanks rest).head? ≠ some '.') :
    Key.read? (name ++ rest) = some (⟨[], name⟩, rest) := by
  rw [Key.read?, simpleKey?_append h hrest]
  exact readFrom_of_no_dot hdot

/-! Fields -/

structure Field where
  name : Text
  written : Text
  value : Value

namespace Field

def line (f : Field) : Text :=
  Written.field f.name f.written

def entry (f : Field) : Text × Value :=
  (f.name, f.value)

structure Reads (f : Field) : Prop where
  isBareName : IsBareName f.name
  exists_eq_cons : ∃ c t, f.written = c :: t ∧ isSpacing c = false
  value? : ∀ rest, value? Document.depth (f.written ++ '\n' :: rest) =
    some (f.value, '\n' :: rest)

end Field

theorem field_line {f : Field} (h : f.Reads) (rest : Text) :
    field (value? Document.depth) (f.line ++ rest) =
      some (⟨[], f.name⟩, f.value, '\n' :: rest) := by
  obtain ⟨c, t, hwritten, hc⟩ := h.exists_eq_cons
  have hvalue := h.value? rest
  rw [hwritten] at hvalue
  have hline : f.line ++ rest = f.name ++ ' ' :: '=' :: ' ' :: (c :: t ++ '\n' :: rest) := by
    simp [Field.line, Written.field, hwritten]
  have hkey : Key.read? (f.name ++ ' ' :: '=' :: ' ' :: (c :: t ++ '\n' :: rest)) =
      some (⟨[], f.name⟩, ' ' :: '=' :: ' ' :: (c :: t ++ '\n' :: rest)) :=
    read?_key h.isBareName rfl (by simp [skipBlanks, isSpacing])
  have hequals (u : Text) : Text.after? ['='] (skipBlanks (' ' :: '=' :: u)) = some u := by
    simp [skipBlanks, isSpacing, Text.after?]
  have hblank (u : Text) : skipBlanks (' ' :: c :: u) = c :: u :=
    (List.dropWhile_cons_of_pos rfl).trans (skipBlanks_of_not_isSpacing hc u)
  rw [hline, field, hkey]
  rw [List.cons_append] at hvalue
  simp [hequals, hblank, hvalue]

theorem Field.Reads.exists_line_eq_cons {f : Field} (h : f.Reads) (rest : Text) :
    ∃ c t, f.line ++ rest = c :: t ∧ isBare c := by
  rw [Field.line, Written.field, List.append_assoc, List.append_assoc, List.append_assoc]
  exact h.isBareName.exists_append_eq_cons _

/-! Tables -/

theorem get?_eq_none (h : name ∉ fs.map Prod.fst) : fs.get? name = none := by
  rw [Table.get?, List.lookup_eq_none_iff]
  intro f hf
  have hne : name ≠ f.1 := fun heq => h (List.mem_map.2 ⟨f, hf, heq.symm⟩)
  simpa using hne

theorem put_of_get?_eq_none (h : fs.get? name = none) (v : Value) :
    fs.put name v = fs ++ [(name, v)] := by
  induction fs with
  | nil => rfl
  | cons f fs ih =>
    obtain ⟨k, w⟩ := f
    have hne : k ≠ name := by
      rintro rfl
      simp [Table.get?] at h
    have hkey : (name == k) = false := beq_eq_false_iff_ne.2 (Ne.symm hne)
    have htail : Table.get? fs name = none := by
      rwa [Table.get?, List.lookup_cons, hkey] at h
    rw [Table.put, if_neg hne, ih htail, List.cons_append]

theorem assign_of_get?_eq_none (h : fs.get? name = none) (v : Value) :
    fs.assign [] name v = some (fs ++ [(name, v)]) := by
  simp [Table.assign, Table.enter, h, put_of_get?_eq_none h]

namespace Document

def State.within (table : Text) (fs : Table) : State :=
  ⟨[(table, .table .header fs)], [table]⟩

theorem assign_within (table : Text) (h : fs.get? name = none) (v : Value) :
    assign (.within table fs) ⟨[], name⟩ v = some (.within table (fs ++ [(name, v)])) := by
  simp [assign, State.within, Table.enterSection, Table.enter, Table.get?, Table.put,
    assign_of_get?_eq_none h]

theorem expression_line (table : Text) {f : Field} (h : f.Reads) (hnew : fs.get? f.name = none)
    (rest : Text) :
    expression (.within table fs) (f.line ++ rest) =
      some (.within table (fs ++ [f.entry]), '\n' :: rest) := by
  have hfield := field_line h rest
  obtain ⟨c, t, hline, hc⟩ := h.exists_line_eq_cons rest
  have hbracket : c ≠ '[' := Text.ne_of_kind hc (by decide)
  rw [hline] at hfield ⊢
  unfold expression
  split
  next heq => exact absurd (List.cons.inj heq).1 hbracket
  next heq => exact absurd (List.cons.inj heq).1 hbracket
  · simp [hfield, assign_within table hnew, Field.entry]

theorem openTable_empty (table : Text) :
    openTable {} ⟨[], table⟩ = some (.within table []) := by
  simp [openTable, Table.openTable, Table.enterSection, Table.enter, Table.get?, Table.put,
    State.within]

theorem expression_header {table : Text} (h : IsBareName table) (rest : Text) :
    expression {} ('[' :: (table ++ ']' :: rest)) = some (.within table [], rest) := by
  have hkey : Key.read? (table ++ ']' :: rest) = some (⟨[], table⟩, ']' :: rest) :=
    read?_key h rfl (by simp [skipBlanks, isSpacing])
  have hclose : Text.after? [']'] (skipBlanks (']' :: rest)) = some rest := by
    simp [skipBlanks, isSpacing, Text.after?]
  obtain ⟨c, t, hcons, hc⟩ := h.exists_append_eq_cons (']' :: rest)
  have hbracket : c ≠ '[' := Text.ne_of_kind hc (by decide)
  have hblank := skipBlanks_of_not_isSpacing (isSpacing_of_kind hc rfl rfl) t
  rw [hcons] at hkey ⊢
  unfold expression
  split
  next heq => exact absurd (List.cons.inj (List.cons.inj heq).2).1 hbracket
  next heq =>
    rw [← (List.cons.inj heq).2, hblank, hkey]
    simp [hclose, openTable_empty]
  next hnot => exact absurd rfl (hnot _)

/-! Lines -/

theorem expressions_end {s : State} (h : skip t = []) : expressions n s t = some s := by
  unfold expressions
  rw [h]

theorem expressions_step {s s' : State} (h : skip t = c :: u)
    (hread : expression s (c :: u) = some (s', '\n' :: rest)) :
    expressions (n + 1) s t = expressions n s' ('\n' :: rest) := by
  have hblank := skipBlanks_of_not_isSpacing (c := '\n') (by decide) rest
  rw [expressions.eq_def (n + 1)]
  dsimp only
  rw [h]
  simp [hread, hblank, endsLine, isLineEnd]

theorem skip_bare (hc : isBare c) (t : Text) : skip (c :: t) = c :: t := by
  have hnone : ∀ d ∈ ['\n', '\r', ' ', '\t', '#'], !isBare d := List.all_eq_true.1 rfl
  exact skip_cons (fun hmem => by simpa [hc] using hnone c hmem) t

theorem expressions_lines (table : Text) {list : List Field} (hreads : ∀ f ∈ list, f.Reads)
    (hnames : (fs.map Prod.fst ++ list.map Field.name).Nodup) (hn : list.length ≤ n) :
    expressions n (.within table fs) ('\n' :: list.flatMap Field.line) =
      some (.within table (fs ++ list.map Field.entry)) := by
  induction list generalizing n fs with
  | nil =>
    rw [List.map_nil, List.append_nil]
    exact expressions_end (skip_lineFeed [])
  | cons f list ih =>
    rw [List.length_cons] at hn
    obtain ⟨n, rfl⟩ := Nat.exists_eq_add_one_of_ne_zero (Nat.ne_of_gt (Nat.zero_lt_of_lt hn))
    rw [List.forall_mem_cons] at hreads
    have hnew : Table.get? fs f.name = none := by
      refine get?_eq_none fun hmem => ?_
      exact (List.nodup_append.1 hnames).2.2 _ hmem _ List.mem_cons_self rfl
    have hexpression := expression_line table hreads.1 hnew (list.flatMap Field.line)
    obtain ⟨c, t, hline, hc⟩ := hreads.1.exists_line_eq_cons (list.flatMap Field.line)
    rw [hline] at hexpression
    have hskip : skip ('\n' :: (f :: list).flatMap Field.line) = c :: t := by
      rw [skip_lineFeed, List.flatMap_cons, hline, skip_bare hc]
    rw [expressions_step hskip hexpression, ih hreads.2 ?_ (by omega)]
    · simp
    · simpa [Field.entry] using hnames

theorem length_le_length_lines (list : List Field) :
    list.length ≤ (list.flatMap Field.line).length := by
  induction list with
  | nil => exact Nat.le_refl 0
  | cons f list ih =>
    have hline : 1 ≤ f.line.length := by
      simp [Field.line, Written.field]
      omega
    rw [List.flatMap_cons, List.length_append, List.length_cons]
    omega

theorem ofText?_fields {table : Text} (h : IsBareName table) {list : List Field}
    (hreads : ∀ f ∈ list, f.Reads) (hnames : (list.map Field.name).Nodup) :
    ofText? ('[' :: (table ++ ']' :: '\n' :: list.flatMap Field.line)) =
      some [(table, .table .header (list.map Field.entry))] := by
  generalize hlines : list.flatMap Field.line = lines
  have hskip : skip ('[' :: (table ++ ']' :: '\n' :: lines)) =
      '[' :: (table ++ ']' :: '\n' :: lines) := skip_cons (by decide) _
  have hmark : skipMark ('[' :: (table ++ ']' :: '\n' :: lines)) =
      '[' :: (table ++ ']' :: '\n' :: lines) := rfl
  have hfuel : list.length ≤ (table ++ ']' :: '\n' :: lines).length := by
    have hlength := length_le_length_lines list
    rw [hlines] at hlength
    simp only [List.length_append, List.length_cons]
    omega
  have hrun : expressions _ (.within table []) ('\n' :: list.flatMap Field.line) =
      some (.within table ([] ++ list.map Field.entry)) :=
    expressions_lines table hreads (by simpa using hnames) hfuel
  rw [hlines, List.nil_append] at hrun
  rw [ofText?, hmark, List.length_cons,
    expressions_step hskip (expression_header h ('\n' :: lines)), hrun]
  rfl

end Document

end LessonText.Toml
