import Mathlib.Data.List.Infix
import LessonText.Copying.Confirmation

/-! How long a copy stays confirmed: from the last copy that was accepted until one of the timers
that were running then comes due. -/

namespace LessonText

namespace Confirmation

/-- Whether the confirmation is shown at time `now`, after copies accepted at the given times: no
timer has come due since the last of them. -/
def ShownAt (delay : Nat) (accepted : List Nat) (now : Nat) : Prop :=
  ∃ last ∈ accepted.getLast?, ∀ t ∈ accepted, ¬(last < t + delay ∧ t + delay ≤ now)

def pending (delay : Nat) (accepted : List Nat) (now : Nat) : List Nat :=
  (accepted.map (· + delay)).filter (now < ·)

variable {delay now : Nat} {ts : List Nat} {c : Confirmation}

theorem mem_pending {u : Nat} : u ∈ pending delay ts now ↔ ∃ t ∈ ts, t + delay = u ∧ now < u := by
  simp only [pending, List.mem_filter, List.mem_map, decide_eq_true_eq]
  constructor
  · rintro ⟨⟨t, ht, rfl⟩, hu⟩
    exact ⟨t, ht, rfl, hu⟩
  · rintro ⟨t, ht, rfl, hu⟩
    exact ⟨⟨t, ht, rfl⟩, hu⟩

theorem pairwise_pending (delay now : Nat) (h : ts.Pairwise (· ≤ ·)) :
    (pending delay ts now).Pairwise (· ≤ ·) := by
  apply List.Pairwise.filter
  rw [List.pairwise_map]
  exact h.imp fun hle => Nat.add_le_add_right hle delay

theorem shownAt_append_singleton (delay : Nat) (ts : List Nat) (now : Nat) :
    ShownAt delay (ts ++ [now]) now := by
  refine ⟨now, by simp, fun t _ h => ?_⟩
  omega

theorem not_shownAt_of_le (hd : 1 ≤ delay) {last : Nat} (hlast : last ∈ ts.getLast?)
    (h : last + delay ≤ now) : ¬ShownAt delay ts now := by
  rintro ⟨l, hl, hts⟩
  obtain rfl : last = l := Option.mem_unique hlast hl
  exact hts last (List.mem_of_getLast? hlast) ⟨by omega, h⟩

theorem shownAt_iff_lt_head (hd : 1 ≤ delay) (hts : ts.Pairwise (· ≤ ·)) :
    ShownAt delay ts now ↔
      ∃ last ∈ ts.getLast?, ∃ first ∈ (pending delay ts last).head?, now < first := by
  constructor
  · rintro ⟨last, hlast, h⟩
    have hne : pending delay ts last ≠ [] := List.ne_nil_of_mem
      (mem_pending.2 ⟨last, List.mem_of_getLast? hlast, rfl, by omega⟩)
    have hfirst := List.head?_eq_some_head hne
    obtain ⟨t, ht, hu, hlt⟩ := mem_pending.1 (List.mem_of_head? hfirst)
    refine ⟨last, hlast, _, hfirst, ?_⟩
    have := h t ht
    omega
  · rintro ⟨last, hlast, first, hfirst, hlt⟩
    refine ⟨last, hlast, fun t ht ⟨hafter, hdue⟩ => ?_⟩
    have hmem : t + delay ∈ pending delay ts last := mem_pending.2 ⟨t, ht, rfl, hafter⟩
    -- timers are set in the order of the copies, so the first that still runs is the earliest
    have hle : first ≤ t + delay := by
      obtain ⟨us, hus⟩ := List.head?_eq_some_iff.1 hfirst
      have hsorted := pairwise_pending delay last hts
      rw [hus] at hsorted hmem
      rcases List.mem_cons.1 hmem with h | h
      · exact Nat.le_of_eq h.symm
      · exact List.rel_of_pairwise_cons hsorted h
    omega

theorem pending_advance (n : Nat) :
    (pending delay ts now).filter (now + n < ·) = pending delay ts (now + n) := by
  rw [pending, pending, List.filter_filter]
  apply List.filter_congr
  intro u _
  rw [← Bool.decide_and, decide_eq_decide]
  omega

/-- Time that passes takes the confirmation away exactly if a timer that was running comes due:
every copy lies in the past, so no timer that has fired already can count. -/
theorem shownAt_advance (hle : ∀ t ∈ ts, t ≤ now) (n : Nat) :
    ShownAt delay ts (now + n) ↔
      ShownAt delay ts now ∧ ∀ u ∈ pending delay ts now, now + n < u := by
  constructor
  · rintro ⟨last, hlast, h⟩
    have hlast_le := hle last (List.mem_of_getLast? hlast)
    refine ⟨⟨last, hlast, fun t ht hdue => h t ht ⟨hdue.1, by omega⟩⟩, fun u hu => ?_⟩
    obtain ⟨t, ht, rfl, hlt⟩ := mem_pending.1 hu
    have := h t ht
    omega
  · rintro ⟨⟨last, hlast, h⟩, hpending⟩
    refine ⟨last, hlast, fun t ht hdue => ?_⟩
    have hlt : now < t + delay := by
      have := h t ht
      omega
    have := hpending _ (mem_pending.2 ⟨t, ht, rfl, hlt⟩)
    omega

structure Follows (delay : Nat) (ts : List Nat) (c : Confirmation) : Prop where
  pairwise : ts.Pairwise (· ≤ ·)
  le_now : ∀ t ∈ ts, t ≤ c.now
  due_eq : c.due = pending delay ts c.now
  shown_iff : c.shown ↔ ShownAt delay ts c.now

namespace Follows

theorem initial (delay : Nat) : Follows delay [] {} where
  pairwise := List.Pairwise.nil
  le_now := by simp
  due_eq := rfl
  shown_iff := by simp [ShownAt]

theorem accept (hd : 1 ≤ delay) (h : Follows delay ts c) :
    Follows delay (ts ++ [c.now]) (c.accept delay) where
  pairwise := by
    rw [List.pairwise_append]
    exact ⟨h.pairwise, List.pairwise_singleton _ _, by simpa using h.le_now⟩
  le_now := by
    rw [List.forall_mem_append]
    exact ⟨h.le_now, by simp [Confirmation.accept]⟩
  due_eq := by
    have hnow : c.now < c.now + delay := by omega
    simp [Confirmation.accept, h.due_eq, pending, hnow]
  shown_iff := by
    simpa [Confirmation.accept] using shownAt_append_singleton delay ts c.now

theorem advance (h : Follows delay ts c) (n : Nat) : Follows delay ts (c.advance n) where
  pairwise := h.pairwise
  le_now t ht := Nat.le_add_right_of_le (h.le_now t ht)
  due_eq := by
    simp only [Confirmation.advance, h.due_eq]
    exact pending_advance n
  shown_iff := by
    simp only [Confirmation.advance, Bool.and_eq_true, List.all_eq_true, decide_eq_true_eq,
      h.shown_iff, h.due_eq]
    exact (shownAt_advance h.le_now n).symm

end Follows

end Confirmation

namespace Copier

open Confirmation (ShownAt Follows pending)

variable {σ : Type} {c : Copier σ} {s : State σ} {ts : List Nat}

def run (c : Copier σ) (s : State σ) (es : List Step) : State σ :=
  es.foldl c.step s

def clock : List Step → Nat
  | [] => 0
  | .copy _ :: es => clock es
  | .advance n :: es => n + clock es

def acceptances (c : Copier σ) (now : Nat) (held : σ) : List Step → List Nat
  | [] => []
  | .advance n :: es => c.acceptances (now + n) held es
  | .copy t :: es =>
    match c.sink t held with
    | (none, held) => now :: c.acceptances now held es
    | (some _, held) => c.acceptances now held es

@[simp] theorem run_nil (c : Copier σ) (s : State σ) : c.run s [] = s := rfl

@[simp] theorem run_cons (c : Copier σ) (s : State σ) (e : Step) (es : List Step) :
    c.run s (e :: es) = c.run (c.step s e) es := rfl

theorem run_append (c : Copier σ) (s : State σ) (es fs : List Step) :
    c.run s (es ++ fs) = c.run (c.run s es) fs :=
  List.foldl_append

theorem states_eq_map_run (c : Copier σ) (s : State σ) (es : List Step) :
    c.states s es = es.inits.map (c.run s) := by
  induction es generalizing s with
  | nil => rfl
  | cons e es ih =>
    rw [states, ih, List.inits_cons, List.map_cons, List.map_map]
    rfl

theorem step_copy_of_accepted {t : Text} {held : σ} (h : c.sink t s.held = (none, held)) :
    c.step s (.copy t) = { held, confirmation := s.confirmation.accept c.delay } := by
  simp [step, h]

theorem step_copy_of_refused {t : Text} {held : σ} {r : Refusal}
    (h : c.sink t s.held = (some r, held)) : c.step s (.copy t) = { s with held } := by
  simp [step, h]

theorem now_run (c : Copier σ) (s : State σ) (es : List Step) :
    (c.run s es).confirmation.now = s.confirmation.now + clock es := by
  induction es generalizing s with
  | nil => rfl
  | cons e es ih =>
    rw [run_cons, ih]
    cases e with
    | advance n => simp [step, clock, Confirmation.advance, Nat.add_assoc]
    | copy t =>
      rcases hs : c.sink t s.held with ⟨_ | r, held⟩
      · rw [step_copy_of_accepted hs]
        rfl
      · rw [step_copy_of_refused hs]
        rfl

theorem follows_run (hd : 1 ≤ c.delay) (h : Follows c.delay ts s.confirmation)
    (es : List Step) :
    Follows c.delay (ts ++ c.acceptances s.confirmation.now s.held es)
      (c.run s es).confirmation := by
  induction es generalizing s ts with
  | nil =>
    rw [acceptances, List.append_nil]
    exact h
  | cons e es ih =>
    rw [run_cons]
    cases e with
    | advance n => exact ih (s := ⟨s.held, _⟩) (h.advance n)
    | copy t =>
      rcases hs : c.sink t s.held with ⟨_ | r, held⟩
      · rw [step_copy_of_accepted hs, acceptances, hs, List.append_cons]
        exact ih (s := ⟨held, _⟩) (h.accept hd)
      · -- a refused copy may change what the sink holds, but no time is added
        rw [step_copy_of_refused hs, acceptances, hs]
        exact ih (s := ⟨held, _⟩) h

/-- After every step the confirmation is shown exactly if a copy was accepted and no timer has come
due since the last one that was. -/
theorem states_shown_iff (hd : 1 ≤ c.delay) (held : σ) (es : List Step) :
    c.states { held } es = es.inits.map (c.run { held }) ∧
      let accepted := c.acceptances 0 held es
      let now := clock es
      let shown := (c.run { held } es).confirmation.shown
      accepted.Pairwise (· ≤ ·) ∧ (∀ t ∈ accepted, t ≤ now) ∧
        (shown ↔ ShownAt c.delay accepted now) ∧
        (shown ↔ ∃ last ∈ accepted.getLast?,
          ∃ first ∈ (pending c.delay accepted last).head?, now < first) ∧
        (c.run { held } es).confirmation.due = pending c.delay accepted now ∧
        (∀ t r held', c.sink t (c.run { held } es).held = (some r, held') →
          (c.run { held } (es ++ [.copy t])).confirmation = (c.run { held } es).confirmation) ∧
        ∀ last ∈ accepted.getLast?, last + c.delay ≤ now → shown = false := by
  have h := follows_run hd (s := { held }) (Follows.initial c.delay) es
  rw [List.nil_append] at h
  have hnow : (c.run { held } es).confirmation.now = clock es := by
    rw [now_run, Nat.zero_add]
  have hshown := h.shown_iff
  have hdue := h.due_eq
  have hle := h.le_now
  rw [hnow] at hshown hdue hle
  refine ⟨states_eq_map_run c _ es, h.pairwise, hle, hshown, ?_, hdue, ?_, ?_⟩
  · exact hshown.trans (Confirmation.shownAt_iff_lt_head hd h.pairwise)
  · intro t r held' hs
    rw [run_append, run_cons, run_nil, step_copy_of_refused hs]
  · intro last hlast hpast
    rw [← Bool.not_eq_true, hshown]
    exact Confirmation.not_shownAt_of_le hd hlast hpast

def sampleCopier : Copier Nat where
  sink t n := if t.length < 8 then (none, n + 1) else (some (.rejected "too long"), n)

def sampleSteps : List Step :=
  [.copy "first", .advance 1500, .copy "second", .copy "refused at last", .advance 500,
    .copy "third", .advance 1499, .advance 1]

theorem states_shown_iff_sampleSteps :
    1 ≤ sampleCopier.delay ∧
      (sampleCopier.states { held := 0 } sampleSteps).map (·.confirmation.shown) =
        [false, true, true, true, true, false, true, true, false] ∧
      sampleCopier.acceptances 0 0 sampleSteps = [0, 1500, 2000] ∧
      ¬ShownAt 2000 [0, 1500, 2000] 3500 := by
  have hd : 1 ≤ sampleCopier.delay := by decide
  obtain ⟨hstates, -, -, hshown, -⟩ := states_shown_iff hd 0 sampleSteps
  refine ⟨hd, ?_, by decide, ?_⟩
  · rw [hstates]
    decide
  · have hlast : (sampleCopier.run { held := 0 } sampleSteps).confirmation.shown = false := by
      decide
    rw [hlast] at hshown
    exact fun h => Bool.false_ne_true (hshown.2 h)

end Copier

end LessonText
