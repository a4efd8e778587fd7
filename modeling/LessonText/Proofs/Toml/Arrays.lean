import LessonText.Proofs.Toml.Values

namespace LessonText.Toml

variable {c : Char} {depth n : Nat} {r r' rest t u : Text} {v : Value} {vs : List Value}
  {value : Text → Option (Value × Text)}

theorem skip_lineFeed (t : Text) : skip ('\n' :: t) = skip t := by
  simp [skip, skipFrom, isLineEnd]

theorem skip_blank (t : Text) : skip (' ' :: t) = skip t := by
  simp [skip, skipFrom, isLineEnd, isSpacing]

theorem skip_cons (hc : c ∉ ['\n', '\r', ' ', '\t', '#']) (t : Text) : skip (c :: t) = c :: t := by
  simp only [List.mem_cons, List.not_mem_nil, or_false, not_or] at hc
  simp [skip, skipFrom, isLineEnd, isSpacing, hc]

theorem skip_text (t rest : Text) :
    skip (Written.text t ++ rest) = Written.text t ++ rest := by
  have hhead := head?_text t rest
  generalize Written.text t ++ rest = u at hhead ⊢
  cases u with
  | nil => rfl
  | cons c u =>
    refine skip_cons ?_ u
    obtain hc | hc := hhead
    · rw [Option.some.inj hc]
      decide
    · rw [Option.some.inj hc]
      decide

theorem items_end (h : skip t = ']' :: rest) : items value (n + 1) t = some ([], rest) := by
  rw [items, h]
  rfl

theorem items_more (h : skip t = u) (hu : u.head? ≠ some ']') (hv : value u = some (v, r))
    (hcomma : skip r = ',' :: r') (hmore : items value n r' = some (vs, rest)) :
    items value (n + 1) t = some (v :: vs, rest) := by
  rw [items, h]
  split
  · exact absurd rfl hu
  · simp [hv, hcomma, hmore]

theorem items_last (h : skip t = u) (hu : u.head? ≠ some ']') (hv : value u = some (v, r))
    (hclose : skip r = ']' :: rest) : items value (n + 1) t = some ([v], rest) := by
  rw [items, h]
  split
  · exact absurd rfl hu
  · simp [hv, hclose]

theorem head?_text_ne_bracket (t rest : Text) :
    (Written.text t ++ rest).head? ≠ some ']' := by
  intro h
  obtain hc | hc := head?_text t rest
  · rw [h] at hc
    contradiction
  · rw [h] at hc
    contradiction

theorem items_flatMap (ts : List Text) (hn : ts.length < n) :
    items (value? depth) n ('\n' :: ts.flatMap Written.item ++ ']' :: rest) =
      some (ts.map .string, rest) := by
  induction ts generalizing n with
  | nil =>
    obtain ⟨n, rfl⟩ := Nat.exists_eq_add_one_of_ne_zero (Nat.ne_of_gt hn)
    exact items_end (by rw [List.flatMap_nil, List.cons_append, skip_lineFeed]; rfl)
  | cons t ts ih =>
    rw [List.length_cons] at hn
    obtain ⟨n, rfl⟩ := Nat.exists_eq_add_one_of_ne_zero (Nat.ne_of_gt (Nat.zero_lt_of_lt hn))
    have hskip : skip ('\n' :: (t :: ts).flatMap Written.item ++ ']' :: rest) =
        Written.text t ++ (',' :: '\n' :: ts.flatMap Written.item ++ ']' :: rest) := by
      rw [← skip_text, List.flatMap_cons, Written.item]
      simp [skip_lineFeed, skip_blank]
    have hfollows := follows_cons (.inr (.inl rfl)) ('\n' :: ts.flatMap Written.item ++ ']' :: rest)
    exact items_more hskip (head?_text_ne_bracket t _) (value?_text t hfollows)
      (skip_cons (by decide) _)
      (ih (by omega))

theorem length_le_length_flatMap (ts : List Text) :
    ts.length ≤ (ts.flatMap Written.item).length := by
  induction ts with
  | nil => exact Nat.le_refl 0
  | cons t ts ih =>
    have hitem : 1 ≤ (Written.item t).length := by
      simp [Written.item]
    rw [List.flatMap_cons, List.length_append, List.length_cons]
    omega

theorem value?_bracket (t : Text) :
    value? (depth + 1) ('[' :: t) =
      (items (value? depth) (t.length + 1) t).map fun (vs, t) => (.array vs, t) := rfl

theorem exists_texts_eq_cons (ts : List Text) : ∃ t, Written.texts ts = '[' :: t := by
  match ts with
  | [] => exact ⟨_, rfl⟩
  | [t] => exact ⟨_, rfl⟩
  | t₁ :: t₂ :: ts => exact ⟨_, rfl⟩

theorem value?_texts (ts : List Text) (rest : Text) :
    value? (depth + 1) (Written.texts ts ++ rest) = some (.array (ts.map .string), rest) := by
  match ts with
  | [] =>
    have hitems : items (value? depth) ((']' :: rest).length + 1) (']' :: rest) = some ([], rest) :=
      items_end (skip_cons (by decide) rest)
    have hwritten : Written.texts [] ++ rest = '[' :: ']' :: rest := rfl
    rw [hwritten, value?_bracket, hitems]
    rfl
  | [t] =>
    have hfollows := follows_cons (.inr (.inr rfl)) rest
    have hitems (n : Nat) : items (value? depth) (n + 1) (Written.text t ++ ']' :: rest) =
        some ([.string t], rest) :=
      items_last (skip_text t _) (head?_text_ne_bracket t _) (value?_text t hfollows)
        (skip_cons (by decide) rest)
    have hwritten : Written.texts [t] ++ rest = '[' :: (Written.text t ++ ']' :: rest) := by
      simp [Written.texts]
    rw [hwritten, value?_bracket, hitems]
    rfl
  | t₁ :: t₂ :: ts =>
    generalize hlist : t₁ :: t₂ :: ts = list
    have hwritten : Written.texts list ++ rest =
        '[' :: ('\n' :: list.flatMap Written.item ++ ']' :: rest) := by
      simp [← hlist, Written.texts]
    have hfuel : list.length < ('\n' :: list.flatMap Written.item ++ ']' :: rest).length + 1 := by
      have hlength := length_le_length_flatMap list
      rw [List.length_append, List.length_cons]
      omega
    rw [hwritten, value?_bracket, items_flatMap list hfuel]
    rfl

end LessonText.Toml
