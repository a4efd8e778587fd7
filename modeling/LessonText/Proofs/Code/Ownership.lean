import LessonText.Proofs.Code.Places

/-! Ownership: which of the matches that are known in a line a character belongs to, and what
tokens make of it. Tokens that follow the matches have the class of the owner, and end where the
owner changes. -/

namespace LessonText

/-- A range of a line under the tag that it is known by. `entry` is the place that its word has in
its list of the lexicon, and 0 where there is no such list. -/
structure Match extends Annotation where
  entry : Nat
  deriving DecidableEq, Repr

namespace Match

def Before (m m' : Match) : Prop :=
  m'.tag.rank < m.tag.rank ∨ m.tag.rank = m'.tag.rank ∧
    (m.entry < m'.entry ∨ m.entry = m'.entry ∧ m.start < m'.start)

def shift (n : Nat) (m : Match) : Match :=
  { m with start := n + m.start, stop := n + m.stop }

variable {known known' : Match → Prop} {m m' : Match} {tag : Tag} {i n : Nat}

theorem covers_iff : m.covers i ↔ m.start ≤ i ∧ i < m.stop :=
  Annotation.covers_iff

theorem not_covers_of_stop_le (h : m.stop ≤ i) : m.covers i = false := by
  rw [← Bool.not_eq_true, covers_iff]
  omega

theorem not_covers_of_lt_start (h : i < m.start) : m.covers i = false := by
  rw [← Bool.not_eq_true, covers_iff]
  omega

@[simp] theorem covers_shift : (m.shift n).covers (n + i) = m.covers i := by
  simp [shift, Annotation.covers]

@[simp] theorem shift_zero (m : Match) : m.shift 0 = m := by
  simp [shift]

theorem shift_add (n k : Nat) (m : Match) : m.shift (n + k) = (m.shift k).shift n := by
  simp [shift, Nat.add_assoc]

theorem shift_injective (n : Nat) : Function.Injective (shift n) := by
  intro m m' h
  obtain ⟨⟨start, stop, tag⟩, entry⟩ := m
  obtain ⟨⟨start', stop', tag'⟩, entry'⟩ := m'
  simpa [shift] using h

@[simp] theorem before_shift_iff : (m.shift n).Before (m'.shift n) ↔ m.Before m' := by
  simp [Before, shift]

theorem Before.asymm (h : m.Before m') : ¬m'.Before m := by
  simp only [Before] at h ⊢
  omega

structure Owns (known : Match → Prop) (i : Nat) (m : Match) : Prop where
  isKnown : known m
  covers : m.covers i
  first : ∀ {m'}, known m' → m'.covers i → m' = m ∨ m.Before m'

def Covered (known : Match → Prop) (tag : Tag) (i : Nat) : Prop :=
  ∃ m, known m ∧ m.tag = tag ∧ m.covers i

open Classical in
noncomputable def classAt (known : Match → Prop) (i : Nat) : Tag :=
  if Covered known .literal i then .literal
  else if Covered known .keyword i then .keyword
  else if Covered known .builtin i then .builtin
  else if Covered known .call i then .call
  else .plain

theorem classAt_eq_of_covered_iff {j : Nat}
    (h : ∀ tag, Covered known tag i ↔ Covered known' tag j) :
    classAt known i = classAt known' j := by
  classical
  simp only [classAt, h]

theorem Owns.unique (h : Owns known i m) (h' : Owns known i m') : m = m' := by
  rcases h.first h'.isKnown h'.covers with heq | hb
  · exact heq.symm
  · rcases h'.first h.isKnown h.covers with heq | hb'
    · exact heq
    · exact absurd hb' hb.asymm

theorem classAt_of_forall_not_covers (h : ∀ m, known m → m.covers i = false) :
    classAt known i = .plain := by
  have hn (tag : Tag) : ¬Covered known tag i := by
    rintro ⟨m, hm, -, hc⟩
    simp [h m hm] at hc
  simp [classAt, hn]

theorem Owns.classAt_eq (h : Owns known i m)
    (htag : m.tag = .literal ∨ m.tag = .keyword ∨ m.tag = .builtin ∨ m.tag = .call) :
    classAt known i = m.tag := by
  have hcov : Covered known m.tag i := ⟨m, h.isKnown, rfl, h.covers⟩
  have hlow {tag : Tag} (hr : m.tag.rank < tag.rank) : ¬Covered known tag i := by
    rintro ⟨m', hm', rfl, hc⟩
    rcases h.first hm' hc with rfl | hb
    · exact absurd hr (Nat.lt_irrefl _)
    · simp only [Before] at hb
      omega
  rcases htag with ht | ht | ht | ht <;> rw [ht] at hcov hlow ⊢
  · simp [classAt, hcov]
  · simp [classAt, hcov, @hlow .literal (by decide)]
  · simp [classAt, hcov, @hlow .literal (by decide), @hlow .keyword (by decide)]
  · simp [classAt, hcov, @hlow .literal (by decide), @hlow .keyword (by decide),
      @hlow .builtin (by decide)]

section Congr

variable (hk : ∀ m, m.covers i → (known m ↔ known' m))
include hk

theorem owns_congr : Owns known i m ↔ Owns known' i m := by
  constructor
  · intro h
    exact ⟨(hk m h.covers).1 h.isKnown, h.covers, fun hm' hc => h.first ((hk _ hc).2 hm') hc⟩
  · intro h
    exact ⟨(hk m h.covers).2 h.isKnown, h.covers, fun hm' hc => h.first ((hk _ hc).1 hm') hc⟩

theorem covered_congr : Covered known tag i ↔ Covered known' tag i := by
  refine exists_congr fun m => ?_
  rw [← and_assoc, ← and_assoc, and_congr_left_iff]
  intro hc
  rw [hk m hc]

theorem classAt_congr : classAt known i = classAt known' i :=
  classAt_eq_of_covered_iff fun _ => covered_congr hk

end Congr

section Shift

variable (hk : ∀ m, m.covers (n + i) → (known m ↔ ∃ m', known' m' ∧ m = m'.shift n))
include hk

theorem owns_shift_iff : Owns known (n + i) m ↔ ∃ m', Owns known' i m' ∧ m = m'.shift n := by
  constructor
  · intro h
    obtain ⟨m', hm', rfl⟩ := (hk m h.covers).1 h.isKnown
    have hc := h.covers
    rw [covers_shift] at hc
    refine ⟨m', ⟨hm', hc, fun {m''} hm'' hc'' => ?_⟩, rfl⟩
    have hc''' : (m''.shift n).covers (n + i) := by rwa [covers_shift]
    have hf := h.first ((hk _ hc''').2 ⟨m'', hm'', rfl⟩) hc'''
    rwa [before_shift_iff, (shift_injective n).eq_iff] at hf
  · rintro ⟨m', h, rfl⟩
    have hc : (m'.shift n).covers (n + i) := by
      rw [covers_shift]
      exact h.covers
    refine ⟨(hk _ hc).2 ⟨m', h.isKnown, rfl⟩, hc, fun {m''} hm'' hc'' => ?_⟩
    obtain ⟨u, hu, rfl⟩ := (hk _ hc'').1 hm''
    rw [covers_shift] at hc''
    rw [before_shift_iff, (shift_injective n).eq_iff]
    exact h.first hu hc''

theorem covered_shift_iff : Covered known tag (n + i) ↔ Covered known' tag i := by
  constructor
  · rintro ⟨m, hm, rfl, hc⟩
    obtain ⟨m', hm', rfl⟩ := (hk m hc).1 hm
    rw [covers_shift] at hc
    exact ⟨m', hm', rfl, hc⟩
  · rintro ⟨m', hm', rfl, hc⟩
    rw [← covers_shift (n := n)] at hc
    exact ⟨m'.shift n, (hk _ hc).2 ⟨m', hm', rfl⟩, rfl, hc⟩

theorem classAt_shift : classAt known (n + i) = classAt known' i :=
  classAt_eq_of_covered_iff fun _ => covered_shift_iff hk

end Shift

theorem forall_owns_shift_iff {j : Nat}
    (hk : ∀ i m, m.covers (n + i) → (known m ↔ ∃ m', known' m' ∧ m = m'.shift n)) :
    (∀ m, Owns known (n + i) m ↔ Owns known (n + j) m) ↔
      ∀ m, Owns known' i m ↔ Owns known' j m := by
  simp only [owns_shift_iff (hk _)]
  constructor
  · intro h m
    simpa [(shift_injective n).eq_iff] using h (m.shift n)
  · intro h m
    exact exists_congr fun m' => and_congr_left fun _ => h m'

theorem Owns.not_succ (hstart : ∀ m, known m → m.covers (i + 1) → i + 1 ≤ m.start)
    (h : Owns known i m) : ¬Owns known (i + 1) m := by
  intro h'
  have hle := (covers_iff.1 h.covers).1
  have := hstart m h'.isKnown h'.covers
  omega

/-- Tokens of a line of `n` characters that make of it what the matches say. A character that is
covered has an owner. -/
structure Follows (known : Match → Prop) (ts : List Token) (n : Nat) : Prop where
  exists_owns : ∀ {i m}, i < n → known m → m.covers i → ∃ o, Owns known i o
  tags_eq : Token.tags ts = (List.range n).map (classAt known)
  cutAt_iff : ∀ {i}, i + 1 < n →
    (Token.CutAt ts (i + 1) ↔ ¬∀ m, Owns known i m ↔ Owns known (i + 1) m)

namespace Follows

variable {ts us : List Token} {n₁ n₂ : Nat} {known₁ known₂ : Match → Prop}

theorem length_join (h : Follows known ts n) : (Token.join ts).length = n := by
  rw [← Token.length_tags, h.tags_eq]
  simp

theorem congr (h : Follows known ts n)
    (hk : ∀ i < n, ∀ m, m.covers i → (known' m ↔ known m)) : Follows known' ts n where
  exists_owns {i m} hi hm hc := by
    obtain ⟨o, ho⟩ := h.exists_owns hi ((hk i hi m hc).1 hm) hc
    exact ⟨o, (owns_congr (hk i hi)).2 ho⟩
  tags_eq := by
    rw [h.tags_eq]
    exact List.map_congr_left fun i hi => (classAt_congr (hk i (List.mem_range.1 hi))).symm
  cutAt_iff {i} hi := by
    rw [h.cutAt_iff hi]
    simp only [owns_congr (hk i (Nat.lt_of_succ_lt hi)), owns_congr (hk (i + 1) hi)]

theorem append (h₁ : Follows known₁ ts n₁) (h₂ : Follows known₂ us n₂)
    (left : ∀ i < n₁, ∀ m, m.covers i → (known m ↔ known₁ m))
    (right : ∀ i m, m.covers (n₁ + i) → (known m ↔ ∃ m', known₂ m' ∧ m = m'.shift n₁))
    (meet : ∀ i, i + 1 = n₁ → 0 < n₂ → (∃ m, Owns known₁ i m) ∨ ∃ m, Owns known₂ 0 m) :
    Follows known (ts ++ us) (n₁ + n₂) where
  exists_owns {i m} hi hm hc := by
    rcases Nat.lt_or_ge i n₁ with hlt | hge
    · exact (h₁.congr left).exists_owns hlt hm hc
    · obtain ⟨i, rfl⟩ := Nat.exists_eq_add_of_le hge
      obtain ⟨m', hm', rfl⟩ := (right i m hc).1 hm
      rw [covers_shift] at hc
      obtain ⟨o, ho⟩ := h₂.exists_owns (by omega) hm' hc
      exact ⟨o.shift n₁, (owns_shift_iff (right i)).2 ⟨o, ho, rfl⟩⟩
  tags_eq := by
    have hr (i : Nat) : classAt known (n₁ + i) = classAt known₂ i := classAt_shift (right i)
    rw [Token.tags_append, (h₁.congr left).tags_eq, h₂.tags_eq, List.range_add, List.map_append,
      List.map_map]
    simp only [Function.comp_def, hr]
  cutAt_iff {i} hi := by
    rcases Nat.lt_trichotomy (i + 1) n₁ with hlt | heq | hgt
    · have hlen : i + 1 < (Token.join ts).length := by rwa [h₁.length_join]
      rw [Token.cutAt_append_of_lt us hlen, (h₁.congr left).cutAt_iff hlt]
    · -- Where the parts meet, a match of the second part begins and one of the first ends.
      subst heq
      have hcut := Token.cutAt_append_length ts us
      rw [h₁.length_join] at hcut
      refine iff_of_true hcut fun hall => ?_
      have hstart : ∀ m, known m → m.covers (i + 1) → i + 1 ≤ m.start := by
        intro m hm hc
        obtain ⟨m', -, rfl⟩ := (right 0 m hc).1 hm
        exact Nat.le_add_right _ _
      rcases meet i rfl (by omega) with ⟨m, hm⟩ | ⟨m, hm⟩
      · have hown := (owns_congr (left i (Nat.lt_succ_self i))).2 hm
        exact hown.not_succ hstart ((hall m).1 hown)
      · have hown : Owns known (i + 1) (m.shift (i + 1)) :=
          (owns_shift_iff (right 0)).2 ⟨m, hm, rfl⟩
        exact ((hall _).2 hown).not_succ hstart hown
    · obtain ⟨k, rfl⟩ := Nat.exists_eq_add_of_le (Nat.le_of_lt_succ hgt)
      have hcut := Token.cutAt_append_add ts us (Nat.succ_pos k)
      rw [h₁.length_join] at hcut
      rw [Nat.add_assoc, hcut, h₂.cutAt_iff (by omega), forall_owns_shift_iff right]

end Follows

theorem owns_of_forall (hm : known m) (hc : m.covers i)
    (h : ∀ m', known m' → m'.covers i → m' = m) : Owns known i m :=
  ⟨hm, hc, fun hm' hc' => .inl (h _ hm' hc')⟩

theorem owns_literal {stop : Nat} (hi : i < stop) :
    Owns (· = ⟨⟨0, stop, .literal⟩, 0⟩) i ⟨⟨0, stop, .literal⟩, 0⟩ :=
  owns_of_forall rfl (covers_iff.2 ⟨Nat.zero_le i, hi⟩) fun _ hm _ => hm

theorem follows_literal (l : Text) :
    Follows (· = ⟨⟨0, l.length, .literal⟩, 0⟩) [⟨l, .literal⟩] l.length := by
  constructor
  case exists_owns =>
    intro i m hi _ _
    exact ⟨_, owns_literal hi⟩
  case tags_eq =>
    rw [Token.tags_cons, Token.tags_nil, List.append_nil, eq_comm, List.eq_replicate_iff]
    refine ⟨by simp, fun tag htag => ?_⟩
    obtain ⟨i, hi, rfl⟩ := List.mem_map.1 htag
    exact (owns_literal (List.mem_range.1 hi)).classAt_eq (.inl rfl)
  case cutAt_iff =>
    intro i hi
    refine iff_of_false ?_ (not_not_intro fun m => ?_)
    · rw [Token.cutAt_singleton_iff]
      exact not_or_intro (Nat.succ_ne_zero i) hi.ne
    · constructor
      · intro h
        rw [h.unique (owns_literal (Nat.lt_of_succ_lt hi))]
        exact owns_literal hi
      · intro h
        rw [h.unique (owns_literal hi)]
        exact owns_literal (Nat.lt_of_succ_lt hi)

end Match

end LessonText
