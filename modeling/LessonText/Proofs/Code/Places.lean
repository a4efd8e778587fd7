import LessonText.Proofs.Code.Tiling

namespace LessonText.Token

def Fills (ts : List Token) (tag : Tag) (start stop : Nat) : Prop :=
  ∃ before k after, ts = before ++ k :: after ∧ k.tag = tag ∧ start = (join before).length ∧
    stop = start + k.text.length

def CutAt (ts : List Token) (n : Nat) : Prop :=
  ∃ before after, ts = before ++ after ∧ (join before).length = n

def tags (ts : List Token) : List Tag :=
  ts.flatMap fun k => k.text.map fun _ => k.tag

variable {ts us : List Token} {k : Token} {tag : Tag} {i j n : Nat}

@[simp] theorem tags_nil : tags [] = [] := rfl

@[simp] theorem tags_cons (k : Token) (ts : List Token) :
    tags (k :: ts) = List.replicate k.text.length k.tag ++ tags ts := by
  simp [tags]

@[simp] theorem tags_append (ts us : List Token) : tags (ts ++ us) = tags ts ++ tags us := by
  simp [tags]

@[simp] theorem length_tags (ts : List Token) : (tags ts).length = (join ts).length := by
  induction ts with
  | nil => rfl
  | cons k ts ih => simp [ih]

theorem fills_append_iff :
    Fills (ts ++ us) tag i j ↔ Fills ts tag i j ∨
      ∃ i' j', Fills us tag i' j' ∧ i = (join ts).length + i' ∧ j = (join ts).length + j' := by
  constructor
  · rintro ⟨before, k, after, h, htag, rfl, rfl⟩
    rcases List.append_eq_append_iff.1 h with ⟨as, rfl, rfl⟩ | ⟨_ | ⟨b, bs⟩, rfl, hb⟩
    · exact .inr ⟨_, _, ⟨as, k, after, rfl, htag, rfl, rfl⟩, by simp, by simp; omega⟩
    · obtain rfl : us = k :: after := hb.symm
      exact .inr ⟨0, _, ⟨[], k, after, rfl, htag, rfl, rfl⟩, by simp, by simp⟩
    · obtain ⟨rfl, rfl⟩ := List.cons.inj hb
      exact .inl ⟨before, k, bs, rfl, htag, rfl, rfl⟩
  · rintro (⟨before, k, after, rfl, htag, rfl, rfl⟩ |
      ⟨i, j, ⟨before, k, after, rfl, htag, rfl, rfl⟩, rfl, rfl⟩)
    · exact ⟨before, k, after ++ us, by simp, htag, rfl, rfl⟩
    · exact ⟨ts ++ before, k, after, by simp, htag, by simp, by omega⟩

theorem fills_cons_iff :
    Fills (k :: ts) tag i j ↔ k.tag = tag ∧ i = 0 ∧ j = k.text.length ∨
      ∃ i' j', Fills ts tag i' j' ∧ i = k.text.length + i' ∧ j = k.text.length + j' := by
  have hsingle : Fills [k] tag i j ↔ k.tag = tag ∧ i = 0 ∧ j = k.text.length := by
    constructor
    · rintro ⟨before, k', after, h, htag, rfl, rfl⟩
      obtain ⟨rfl, h⟩ | ⟨-, h⟩ := List.append_eq_singleton_iff.1 h.symm
      · obtain ⟨rfl, -⟩ := List.cons.inj h
        exact ⟨htag, rfl, by simp⟩
      · simp at h
    · rintro ⟨htag, rfl, rfl⟩
      exact ⟨[], k, [], rfl, htag, rfl, by simp⟩
  have happend : Fills ([k] ++ ts) tag i j ↔ _ := fills_append_iff
  rwa [hsingle, join_cons, join_nil, List.append_nil] at happend

theorem Fills.getElem?_tags (h : Fills ts tag i j) (hi : i ≤ n) (hj : n < j) :
    (tags ts)[n]? = some tag := by
  obtain ⟨before, k, after, rfl, rfl, rfl, rfl⟩ := h
  rw [tags_append, tags_cons, List.getElem?_append_right (by simpa using hi),
    List.getElem?_append_left (by simp; omega), List.getElem?_replicate_of_lt (by simp; omega)]

theorem Fills.mem (h : Fills ts tag i j) : ∃ k ∈ ts, k.tag = tag := by
  obtain ⟨before, k, after, rfl, htag, -⟩ := h
  exact ⟨k, by simp, htag⟩

theorem cutAt_append_iff :
    CutAt (ts ++ us) n ↔ CutAt ts n ∨ ∃ m, CutAt us m ∧ n = (join ts).length + m := by
  constructor
  · rintro ⟨before, after, h, rfl⟩
    rcases List.append_eq_append_iff.1 h with ⟨as, rfl, rfl⟩ | ⟨bs, rfl, rfl⟩
    · exact .inr ⟨_, ⟨as, after, rfl, rfl⟩, by simp⟩
    · exact .inl ⟨before, bs, rfl, rfl⟩
  · rintro (⟨before, after, rfl, rfl⟩ | ⟨m, ⟨before, after, rfl, rfl⟩, rfl⟩)
    · exact ⟨before, after ++ us, by simp, rfl⟩
    · exact ⟨ts ++ before, after, by simp, by simp⟩

theorem CutAt.le (h : CutAt ts n) : n ≤ (join ts).length := by
  obtain ⟨before, after, rfl, rfl⟩ := h
  simp

theorem cutAt_singleton_iff : CutAt [k] n ↔ n = 0 ∨ n = k.text.length := by
  constructor
  · rintro ⟨before, after, h, rfl⟩
    obtain ⟨rfl, -⟩ | ⟨rfl, -⟩ := List.append_eq_singleton_iff.1 h.symm
    · exact .inl rfl
    · exact .inr (by simp)
  · rintro (rfl | rfl)
    · exact ⟨[], [k], rfl, rfl⟩
    · exact ⟨[k], [], rfl, by simp⟩

theorem cutAt_append_of_lt (us : List Token) (h : n < (join ts).length) :
    CutAt (ts ++ us) n ↔ CutAt ts n := by
  rw [cutAt_append_iff]
  refine or_iff_left ?_
  rintro ⟨m, -, hm⟩
  omega

theorem cutAt_append_length (ts us : List Token) : CutAt (ts ++ us) (join ts).length :=
  ⟨ts, us, rfl, rfl⟩

theorem cutAt_append_add (ts us : List Token) (h : 0 < n) :
    CutAt (ts ++ us) ((join ts).length + n) ↔ CutAt us n := by
  rw [cutAt_append_iff]
  constructor
  · rintro (hc | ⟨m, hc, hm⟩)
    · have := hc.le
      omega
    · rwa [Nat.add_left_cancel hm]
  · exact fun hc => .inr ⟨n, hc, rfl⟩

end LessonText.Token
