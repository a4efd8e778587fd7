import LessonText.Text.Phrase
import LessonText.Proofs.Text.Splicing

namespace LessonText

namespace Text

open Unicode (isWhiteSpace)

variable {s t l : Text} {ls : List Text}

def IsFlushLeft (t : Text) : Prop :=
  t.head?.any (!isWhiteSpace ·)

def IsFlushRight (t : Text) : Prop :=
  t.getLast?.any (!isWhiteSpace ·)

instance : DecidablePred IsFlushLeft :=
  fun t => inferInstanceAs (Decidable (t.head?.any (!isWhiteSpace ·) = true))

instance : DecidablePred IsFlushRight :=
  fun t => inferInstanceAs (Decidable (t.getLast?.any (!isWhiteSpace ·) = true))

theorem isFlushLeft_iff : IsFlushLeft t ↔ t ≠ [] ∧ t.head?.any isWhiteSpace = false := by
  rw [IsFlushLeft, ne_eq, ← List.head?_eq_none_iff]
  cases t.head? <;> simp

theorem isFlushRight_iff : IsFlushRight t ↔ t ≠ [] ∧ t.getLast?.any isWhiteSpace = false := by
  rw [IsFlushRight, ne_eq, ← List.getLast?_eq_none_iff]
  cases t.getLast? <;> simp

theorem IsFlushLeft.append (h : IsFlushLeft s) (t : Text) : IsFlushLeft (s ++ t) := by
  cases s with
  | nil => contradiction
  | cons c s => exact h

theorem IsFlushRight.append (h : IsFlushRight t) (s : Text) : IsFlushRight (s ++ t) := by
  rwa [IsFlushRight, any_getLast?_append_of_ne_nil s (isFlushRight_iff.1 h).1]

theorem trim_of_isFlush (hl : IsFlushLeft t) (hr : IsFlushRight t) : trim t = t := by
  rw [trim, trimStart_of_head? (isFlushLeft_iff.1 hl).2,
    trimEnd_of_getLast? (isFlushRight_iff.1 hr).2]

theorem isFlushLeft_unlines (h : ls.head? = some l) (hl : IsFlushLeft l) :
    IsFlushLeft (unlines ls) := by
  obtain ⟨ls, rfl⟩ := List.head?_eq_some_iff.1 h
  rcases Decidable.em (ls = []) with rfl | hne
  · rwa [unlines, List.intercalate_singleton]
  · rw [unlines_cons_of_ne_nil l hne]
    exact hl.append _

theorem isFlushRight_unlines (h : ls.getLast? = some l) (hl : IsFlushRight l) :
    IsFlushRight (unlines ls) := by
  obtain ⟨ks, rfl⟩ := List.getLast?_eq_some_iff.1 h
  clear h
  induction ks with
  | nil => rwa [List.nil_append, unlines, List.intercalate_singleton]
  | cons k ks ih =>
    rw [List.cons_append, unlines_cons_of_ne_nil k (by simp)]
    exact (ih.append ['\n']).append k

theorem trim_unlines_snoc_nil (ls : List Text) :
    (unlines (ls ++ [[]])).trim = (unlines ls).trim := by
  cases ls using List.reverseRecOn with
  | nil => rfl
  | append_singleton ls l =>
    have h := unlines_append_unlines ls l [] [[]]
    have hfeed : unlines [[], []] = ['\n'] := rfl
    rw [List.append_nil, hfeed] at h
    rw [List.append_assoc, List.singleton_append, ← h, trim_snoc_of_isWhiteSpace (by decide)]

end Text

namespace Phrase

theorem isFlushLeft (p : Phrase) : p.text.IsFlushLeft :=
  Text.isFlushLeft_iff.2 ⟨p.text_ne_nil, Text.any_head?_of_trim_eq p.trim_text⟩

end Phrase

end LessonText
