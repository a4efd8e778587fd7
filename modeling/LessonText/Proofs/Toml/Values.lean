import LessonText.Proofs.Text.Runs
import LessonText.Proofs.Toml.Choosing
import LessonText.Proofs.Toml.Numbers

namespace LessonText.Toml

open Number (Plain signText)

variable {c : Char} {depth n : Nat} {rest t w : Text} {v : Value}

/-- What follows a value: the end of its line or of its array, or a comma. -/
def Follows (rest : Text) : Prop :=
  ∃ c t, rest = c :: t ∧ (c = '\n' ∨ c = ',' ∨ c = ']')

theorem follows_cons (hc : c = '\n' ∨ c = ',' ∨ c = ']') (t : Text) : Follows (c :: t) :=
  ⟨c, t, rfl, hc⟩

theorem Follows.head?_ne_quote (h : Follows rest) (q : Quotation) :
    rest.head? ≠ some q.quote := by
  obtain ⟨c, t, rfl, hc⟩ := h
  obtain ⟨escapes, lines⟩ := q
  obtain rfl | rfl | rfl := hc <;> cases escapes <;> simp [Quotation.quote]

/-! Words -/

theorem word_append (hw : ∀ c ∈ w, isWordCharacter c) (h : Follows rest) :
    word (w ++ rest) = (w, rest) := by
  obtain ⟨c, t, rfl, hc⟩ := h
  have hstop : isWordCharacter c = false := by
    obtain rfl | rfl | rfl := hc <;> decide
  have hblank : c ≠ ' ' := by
    obtain rfl | rfl | rfl := hc <;> decide
  have htake : (w ++ c :: t).takeWhile isWordCharacter = w :=
    Text.takeWhile_append_of_forall hw hstop
  unfold word
  dsimp only
  rw [htake, List.drop_left]
  split
  next heq => exact absurd (List.cons.inj heq).1 hblank
  next => rfl

theorem isSpacing_of_kind {p : Char → Bool} (hc : p c) (hblank : p ' ' = false)
    (htab : p '\t' = false) : isSpacing c = false := by
  simp [isSpacing, Text.ne_of_kind hc hblank, Text.ne_of_kind hc htab]

structure IsWord (w : Text) (v : Value) : Prop where
  ne_nil : w ≠ []
  isWordCharacter : ∀ c ∈ w, isWordCharacter c
  ofWord? : ofWord? w = some v

/-! Numbers as they are written -/

theorem isWordCharacter_of_plain (h : Plain c) : isWordCharacter c := by
  obtain hc | rfl | rfl := h
  · simp [isWordCharacter, Char.isAlphanum, hc]
  · decide
  · decide

theorem ne_truth_of_plain (hplain : ∀ c ∈ w, Plain c) :
    w ≠ "true".toList ∧ w ≠ "false".toList := by
  have hne {u : Text} (hu : 'e' ∈ u) : w ≠ u := by
    rintro rfl
    exact absurd (hplain 'e' hu) (by simp [Plain, Char.isDigit])
  exact ⟨hne (by simp), hne (by simp)⟩

theorem isWord_of_integer? {k : Int} (hne : w ≠ []) (hplain : ∀ c ∈ w, Plain c)
    (h : Number.integer? w = some k) : IsWord w (.integer k) where
  ne_nil := hne
  isWordCharacter c hc := isWordCharacter_of_plain (hplain c hc)
  ofWord? := by
    have htruth := ne_truth_of_plain hplain
    rw [Toml.ofWord?, if_neg htruth.1, if_neg htruth.2, h]

theorem isWord_of_float? {x : Numeral.Double} (hne : w ≠ []) (hplain : ∀ c ∈ w, Plain c)
    (hinteger : Number.integer? w = none) (h : Number.float? w = some x) :
    IsWord w (.float x) where
  ne_nil := hne
  isWordCharacter c hc := isWordCharacter_of_plain (hplain c hc)
  ofWord? := by
    have htruth := ne_truth_of_plain hplain
    rw [Toml.ofWord?, if_neg htruth.1, if_neg htruth.2, hinteger, h]

theorem isWord_natural (h : n < 2 ^ 128) : IsWord (Written.natural n) (.integer n) :=
  isWord_of_integer? Nat.toDigits_ne_nil
    (fun c hc => .inl ((Text.isDigits_toDigits n).isDigit c hc)) (Number.integer?_toDigits h)

theorem single_of_finite {s : Numeral.Single} {m : Nat} {q : Int}
    (h : s.magnitude? = some (.finite m q)) :
    Written.single s = signText s.negative ++ (Numeral.Decimal.shortest m q).pointed := by
  have hsign : '.' ∉ signText s.negative := by
    cases s.negative <;> simp [signText]
  have htext : s.text = signText s.negative ++ (Numeral.Decimal.shortest m q).positional := by
    rw [Numeral.Single.text, h]
    rfl
  simp only [Written.single, h, htext, Numeral.Decimal.pointed, List.mem_append, hsign, false_or]
  split
  · rfl
  · rw [List.append_assoc]

theorem isWord_finite {m : Nat} {q : Int} (hm : m < 2 ^ 24) (hq : q ≤ 104) (negative : Bool) :
    ∃ x, IsWord (signText negative ++ (Numeral.Decimal.shortest m q).pointed) (.float x) := by
  obtain ⟨whole, fraction, value, places, hpointed, hrange⟩ :=
    (Numeral.Decimal.small_shortest hm hq).exists_pointed
  have hne : signText negative ++ (Numeral.Decimal.shortest m q).pointed ≠ [] := by
    simp [hpointed.eq_append]
  have hplain := Number.plain_of_signText negative (Number.plain_of_pointed hpointed)
  exact ⟨_, isWord_of_float? hne hplain (Number.integer?_of_pointed negative hpointed)
    (Number.float?_of_pointed negative hpointed hrange)⟩

theorem isWord_single (s : Numeral.Single) : ∃ x, IsWord (Written.single s) (.float x) := by
  cases hmagnitude : s.magnitude? with
  | none =>
    rw [Written.single, hmagnitude]
    dsimp only
    cases s.negative with
    | true => exact ⟨⟨true, none⟩, by decide, List.all_eq_true.1 rfl, rfl⟩
    | false => exact ⟨⟨false, none⟩, by decide, List.all_eq_true.1 rfl, rfl⟩
  | some magnitude =>
    cases magnitude with
    | infinite =>
      rw [Written.single, hmagnitude]
      dsimp only
      rw [Numeral.Single.text, hmagnitude]
      dsimp only
      cases s.negative with
      | true => exact ⟨⟨true, some .infinite⟩, by decide, List.all_eq_true.1 rfl, rfl⟩
      | false => exact ⟨⟨false, some .infinite⟩, by decide, List.all_eq_true.1 rfl, rfl⟩
    | finite m q =>
      obtain ⟨hm, hq⟩ := Numeral.Single.bounds_of_magnitude? hmagnitude
      rw [single_of_finite hmagnitude]
      exact isWord_finite hm hq s.negative

/-! Values -/

theorem simpleValue?_word (hw : IsWord w v) (h : Follows rest) :
    simpleValue? (w ++ rest) = some (v, rest) := by
  have hword := word_append hw.isWordCharacter h
  obtain ⟨c, s, rfl⟩ := List.exists_cons_of_ne_nil hw.ne_nil
  have hc : isWordCharacter c := hw.isWordCharacter c List.mem_cons_self
  rw [List.cons_append] at hword ⊢
  unfold simpleValue?
  split
  next heq => exact absurd (List.cons.inj heq).1 (Text.ne_of_kind hc (by decide))
  next heq => exact absurd (List.cons.inj heq).1 (Text.ne_of_kind hc (by decide))
  next =>
    rw [hword]
    dsimp only
    rw [hw.ofWord?, Option.map_some]

theorem value?_eq_simpleValue? (hbracket : t.head? ≠ some '[') (hbrace : t.head? ≠ some '\x7b') :
    value? depth t = simpleValue? t := by
  cases depth with
  | zero => rfl
  | succ depth =>
    unfold value?
    split
    · exact absurd rfl hbracket
    · exact absurd rfl hbrace
    · rfl

theorem value?_word (hw : IsWord w v) (h : Follows rest) :
    value? depth (w ++ rest) = some (v, rest) := by
  have hhead {c : Char} (hc : isWordCharacter c = false) : (w ++ rest).head? ≠ some c := by
    obtain ⟨d, s, rfl⟩ := List.exists_cons_of_ne_nil hw.ne_nil
    have hd := hw.isWordCharacter d List.mem_cons_self
    exact fun heq => Text.ne_of_kind hd hc (Option.some.inj heq)
  rw [value?_eq_simpleValue? (hhead (by decide)) (hhead (by decide)), simpleValue?_word hw h]

theorem head?_text (t rest : Text) :
    (Written.text t ++ rest).head? = some '"' ∨ (Written.text t ++ rest).head? = some '\x27' := by
  rw [Written.text, Quotation.head?_write, Quotation.quote]
  split
  · exact .inl rfl
  · exact .inr rfl

theorem exists_text_eq_cons (t : Text) :
    ∃ c u, Written.text t = c :: u ∧ (c = '"' ∨ c = '\x27') := by
  have hhead := head?_text t []
  rw [List.append_nil] at hhead
  cases hu : Written.text t with
  | nil => simp [hu] at hhead
  | cons c u =>
    rw [hu] at hhead
    exact ⟨c, u, rfl, hhead.imp Option.some.inj Option.some.inj⟩

theorem value?_text (t : Text) (h : Follows rest) :
    value? depth (Written.text t ++ rest) = some (.string t, rest) := by
  have hread : Quotation.read? (Written.text t ++ rest) = some (t, rest) :=
    Quotation.read?_write (Quotation.writes_choose t) (h.head?_ne_quote _)
  have hhead := head?_text t rest
  generalize Written.text t ++ rest = u at hread hhead
  cases u with
  | nil => simp at hhead
  | cons c u =>
    have hc : c = '"' ∨ c = '\x27' := hhead.imp Option.some.inj Option.some.inj
    rw [value?_eq_simpleValue?]
    · unfold simpleValue?
      obtain rfl | rfl := hc
      · simp only [hread, Option.map_some]
      · simp only [hread, Option.map_some]
    · obtain rfl | rfl := hc <;> simp
    · obtain rfl | rfl := hc <;> simp

end LessonText.Toml
