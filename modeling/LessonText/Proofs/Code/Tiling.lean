import LessonText.Code.Listing
import LessonText.Proofs.Code.Resolution
import LessonText.Proofs.Text.Bytes
import LessonText.Proofs.Text.Cutting
import LessonText.Proofs.Text.Lines

namespace LessonText

namespace Token

@[simp] theorem join_nil : join [] = [] := rfl

@[simp] theorem join_cons (t : Token) (ts : List Token) : join (t :: ts) = t.text ++ join ts := by
  simp [join]

@[simp] theorem join_append (ts us : List Token) : join (ts ++ us) = join ts ++ join us := by
  simp [join]

structure Tiles (ts : List Token) (line : Text) : Prop where
  join_eq : join ts = line
  text_ne_nil : ∀ t ∈ ts, t.text ≠ []

namespace Tiles

variable {ts us : List Token} {line rest : Text}

theorem nil : Tiles [] [] :=
  ⟨rfl, by simp⟩

theorem singleton {t : Token} (h : t.text ≠ []) : Tiles [t] t.text :=
  ⟨by simp, by simpa using h⟩

theorem append (h : Tiles ts line) (h' : Tiles us rest) : Tiles (ts ++ us) (line ++ rest) where
  join_eq := by rw [join_append, h.join_eq, h'.join_eq]
  text_ne_nil t ht := (List.mem_append.1 ht).elim (h.text_ne_nil t) (h'.text_ne_nil t)

theorem flatMap {α : Type} {f : α → List Token} {g : α → Text} {l : List α}
    (h : ∀ a ∈ l, Tiles (f a) (g a)) : Tiles (l.flatMap f) (l.flatMap g) := by
  induction l with
  | nil => exact nil
  | cons a l ih => exact (h a (by simp)).append (ih fun b hb => h b (by simp [hb]))

theorem eq_nil_iff (h : Tiles ts line) : ts = [] ↔ line = [] := by
  rw [← h.join_eq]
  cases ts with
  | nil => simp
  | cons t ts => simp [h.text_ne_nil t]

theorem standsAt {before after : List Token} {t : Token} (h : Tiles (before ++ t :: after) line) :
    Utf8.StandsAt t.text line (Text.utf8Length (join before)) := by
  have hl : line = join before ++ t.text ++ join after := by simp [← h.join_eq]
  rw [hl]
  exact Utf8.standsAt_append _ _ _

end Tiles

end Token

open Token (Tiles)

theorem Annotation.tiles_resolve (t : Text) (as : List Annotation) : Tiles (resolve t as) t :=
  ⟨join_resolve t as, fun _ => text_ne_nil_of_mem_resolve⟩

namespace Literal

theorem append_of_match? {t l r : Text} (h : pattern.match? t = some (l, r)) : t = l ++ r := by
  obtain ⟨-, -, -, -, -, ht⟩ := match?_eq_some h
  exact ht

theorem ne_nil_of_match? {t l r : Text} (h : pattern.match? t = some (l, r)) : l ≠ [] := by
  obtain ⟨q, body, -, rfl, -, -⟩ := match?_eq_some h
  simp

theorem flatMap_write_cut (line : Text) :
    (pattern.cut line).flatMap (Fragment.write id) = line :=
  Pattern.flatMap_write_cut append_of_match? line

end Literal

namespace Listing

theorem tiles_tokensOf (lx : Lexicon) (line : Text) :
    ∀ f ∈ Literal.pattern.cut line, Tiles (tokensOf lx f) (f.write id) := by
  apply Pattern.forall_mem_cut
  · intro gap _
    exact Annotation.tiles_resolve gap _
  · intro t l r h
    exact .singleton (Literal.ne_nil_of_match? h)

theorem tiles_tokens (lx : Lexicon) (line : Text) : Tiles (tokens lx line) line := by
  rw [tokens]
  split
  next h =>
    rw [List.isEmpty_iff.1 h]
    exact .nil
  next h =>
    split
    · exact .singleton (by simpa using h)
    · have ht := Tiles.flatMap (tiles_tokensOf lx line)
      rwa [Literal.flatMap_write_cut] at ht

theorem map_number_ofText (lx : Lexicon) (code : Text) :
    (ofText lx code).map Row.number = List.range' 1 code.lines.length := by
  simp only [ofText, List.map_map]
  exact List.zipIdx_map_snd 1 code.lines

theorem map_text_ofText (lx : Lexicon) (code : Text) :
    (ofText lx code).map Row.text = code.lines := by
  simp only [ofText, List.map_map, Function.comp_def, Row.text, (tiles_tokens lx _).join_eq]
  exact List.zipIdx_map_fst 1 code.lines

theorem tokens_of_mem_ofText {lx : Lexicon} {code : Text} {r : Row} (h : r ∈ ofText lx code) :
    r.tokens = tokens lx r.text := by
  obtain ⟨li, -, rfl⟩ := List.mem_map.1 h
  rw [Row.text, (tiles_tokens lx li.1).join_eq]

/-- A listing has a row for each line of the code, and each row is its line, cut into tokens
between characters. -/
theorem ofText_lossless (lx : Lexicon) (code : Text) :
    (ofText lx code).map Row.number = List.range' 1 code.lines.length ∧
      (ofText lx code).map Row.text = code.lines ∧
      (∀ l ∈ code.lines, '\n' ∉ l) ∧
      Text.unlines ((ofText lx code).map Row.text) = code ∧
      (∀ r ∈ ofText lx code, r.tokens = tokens lx r.text) ∧
      ∀ line : Text, Token.join (tokens lx line) = line ∧
        (∀ t ∈ tokens lx line, t.text ≠ []) ∧
        (tokens lx line = [] ↔ line = []) ∧
        ∀ before t after, tokens lx line = before ++ t :: after →
          Utf8.StandsAt t.text line (Text.utf8Length (Token.join before)) := by
  refine ⟨map_number_ofText lx code, map_text_ofText lx code, ?_, ?_, ?_, fun line => ?_⟩
  · exact fun l => Text.lineFeed_not_mem_of_mem_lines
  · rw [map_text_ofText, Text.unlines_lines]
  · exact fun r => tokens_of_mem_ofText
  · have h := tiles_tokens lx line
    refine ⟨h.join_eq, h.text_ne_nil, h.eq_nil_iff, fun before t after ht => ?_⟩
    rw [ht] at h
    exact h.standsAt

end Listing

end LessonText
