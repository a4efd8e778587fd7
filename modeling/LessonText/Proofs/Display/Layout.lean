import LessonText.Display.Page
import LessonText.Proofs.Display.Snippets
import LessonText.Proofs.Display.Terminal
import LessonText.Proofs.Markup.Characters
import LessonText.Proofs.Prose.Characters
import Mathlib.Data.List.Infix

namespace LessonText

open Selection (introducer)

namespace Terminal

/-- A text that reads as `seen`, whatever follows it, and leaves the pen fresh. -/
def Shows (t seen : Text) : Prop :=
  ∃ cs, Draws t {} cs {} ∧ cs.map Cell.char = seen

/-- A text of which, whatever follows it, `seen` is read first and `part` next, all of `part` in the
looks of the pen. -/
def ShowsNext (t seen part : Text) (p : Pen) : Prop :=
  ∃ before, before.map Cell.char = seen ∧
    ∀ rest, ∃ after, screen (t ++ rest) = before ++ p.cells part ++ after

namespace Shows

variable {t u seen more part : Text} {p : Pen}

theorem nil : Shows [] [] :=
  ⟨[], Draws.nil {}, rfl⟩

theorem append (h : Shows t seen) (h' : Shows u more) : Shows (t ++ u) (seen ++ more) := by
  obtain ⟨cs, hcs, rfl⟩ := h
  obtain ⟨ds, hds, rfl⟩ := h'
  exact ⟨cs ++ ds, hcs.append hds, List.map_append⟩

theorem plain (h : introducer ∉ t) : Shows t t :=
  ⟨_, Draws.plain h {}, Pen.map_char_cells {} t⟩

theorem lineFeed : Shows lineFeed lineFeed :=
  plain (by decide)

theorem blank : Shows " ".toList " ".toList :=
  plain (by decide)

theorem paint (s : Style) (h : introducer ∉ t) : Shows (s.paint t) t :=
  ⟨_, s.draws_paint h, Pen.map_char_cells s.pen t⟩

theorem flatMap {α : Type} {f g : α → Text} {l : List α} (h : ∀ a ∈ l, Shows (f a) (g a)) :
    Shows (l.flatMap f) (l.flatMap g) := by
  induction l with
  | nil => exact nil
  | cons a l ih => exact (h a (by simp)).append (ih fun b hb => h b (by simp [hb]))

theorem visible_eq (h : Shows t seen) : visible t = seen := by
  obtain ⟨cs, hcs, rfl⟩ := h
  rw [visible, hcs.screen_eq]

theorem penAfter_eq (h : Shows t seen) : penAfter t = {} := by
  obtain ⟨cs, hcs, -⟩ := h
  exact hcs.penAfter_eq

theorem next (h : Shows t seen) (h' : ShowsNext u more part p) :
    ShowsNext (t ++ u) (seen ++ more) part p := by
  obtain ⟨cs, hcs, rfl⟩ := h
  obtain ⟨before, rfl, hbefore⟩ := h'
  refine ⟨cs ++ before, List.map_append, fun rest => ?_⟩
  obtain ⟨ds, hds⟩ := hbefore rest
  refine ⟨ds, ?_⟩
  calc screen (t ++ u ++ rest)
    _ = cs ++ screen (u ++ rest) := by rw [List.append_assoc, screen, hcs]; rfl
    _ = cs ++ before ++ p.cells part ++ ds := by rw [hds]; simp

end Shows

namespace ShowsNext

variable {t seen part : Text} {p : Pen}

theorem paint (s : Style) (h : introducer ∉ t) : ShowsNext (s.paint t) [] t s.pen := by
  refine ⟨[], rfl, fun rest => ⟨(read {} rest).1, ?_⟩⟩
  rw [screen, s.draws_paint h]
  rfl

theorem append (h : ShowsNext t seen part p) (u : Text) : ShowsNext (t ++ u) seen part p := by
  obtain ⟨before, hseen, hbefore⟩ := h
  refine ⟨before, hseen, fun rest => ?_⟩
  rw [List.append_assoc]
  exact hbefore (u ++ rest)

theorem flatMap {α : Type} {f g : α → Text} {as : List α} {a : α}
    (has : ∀ x ∈ as, Shows (f x) (g x)) (ha : ShowsNext (f a) seen part p) (bs : List α) :
    ShowsNext ((as ++ a :: bs).flatMap f) (as.flatMap g ++ seen) part p := by
  rw [List.flatMap_append, List.flatMap_cons]
  exact (Shows.flatMap has).next (ha.append _)

end ShowsNext

end Terminal

open Terminal (Shows ShowsNext)

theorem Page.introducer_not_mem_number (width n : Nat) : introducer ∉ number width n := by
  rw [number, List.mem_append, List.mem_replicate]
  rintro (⟨-, h⟩ | h)
  · exact absurd h (by decide)
  · exact absurd (Nat.isDigit_of_mem_toDigits (by decide) (by decide) h) (by decide)

namespace Span

variable {ss : List Span}

theorem shows_spans (h : ∀ s ∈ ss, introducer ∉ s.text) :
    Shows (Page.spans ss) (plainText ss) := by
  apply Shows.flatMap
  intro s hs
  cases s with
  | plain t => exact Shows.plain (h _ hs)
  | emphasized t => exact Shows.paint _ (h _ hs)

end Span

namespace Listing

variable {lx : Lexicon} {language code : Text} {l : Listing} {r : Row}

def margin (last n : Nat) : Text :=
  (Nat.toDigits 10 n).leftpad (max 2 (Nat.toDigits 10 last).length) ' ' ++ [' ']

theorem length_margin {last n : Nat} (h : n ≤ last) :
    (margin last n).length = max 2 (Nat.toDigits 10 last).length + 1 := by
  have hpos : 0 < (Nat.toDigits 10 last).length :=
    List.length_pos_of_ne_nil Nat.toDigits_ne_nil
  have hlast : last < 10 ^ (Nat.toDigits 10 last).length :=
    (Nat.length_toDigits_le_iff (by decide) hpos).1 (Nat.le_refl _)
  have hn : (Nat.toDigits 10 n).length ≤ (Nat.toDigits 10 last).length :=
    (Nat.length_toDigits_le_iff (by decide) hpos).2 (Nat.lt_of_le_of_lt h hlast)
  rw [margin, List.length_append, List.length_leftpad, List.length_singleton]
  omega

def top (language : Text) : Text :=
  "┌─ ".toList ++ language ++ " ".toList ++ lineFeed

def bottom : Text :=
  "└─".toList ++ lineFeed

def line (last n : Nat) (t : Text) : Text :=
  margin last n ++ t ++ lineFeed

def layout (language code : Text) : Text :=
  top language ++ ((code.lines.zipIdx 1).flatMap fun li => line code.lines.length li.2 li.1) ++
    bottom

theorem length_ofText (lx : Lexicon) (code : Text) :
    (ofText lx code).length = code.lines.length := by
  rw [← map_text_ofText lx code, List.length_map]

theorem flatMap_line_ofText (lx : Lexicon) (code : Text) (last : Nat) :
    ((ofText lx code).flatMap fun r => line last r.number r.text) =
      (code.lines.zipIdx 1).flatMap fun li => line last li.2 li.1 := by
  rw [ofText, List.flatMap_map]
  simp only [Row.text, (tiles_tokens lx _).join_eq]

theorem subset_of_mem_tokens (hr : r ∈ ofText lx code) {t : Token} (ht : t ∈ r.tokens) :
    t.text ⊆ code := by
  have hline : r.text ∈ code.lines := by
    rw [← map_text_ofText lx code]
    exact List.mem_map_of_mem hr
  intro c hc
  exact Text.subset_of_mem_lines hline (List.mem_flatMap.2 ⟨t, ht, hc⟩)

theorem shows_top (h : introducer ∉ language) :
    Shows ((Style.coloured .darkGrey).paint ("┌─ ".toList ++ language ++ " ".toList) ++ lineFeed)
      (top language) := by
  have hhead : introducer ∉ "┌─ ".toList ++ language ++ " ".toList := by
    simp only [List.mem_append, not_or]
    exact ⟨⟨by decide, h⟩, by decide⟩
  exact (Shows.paint _ hhead).append .lineFeed

theorem shows_bottom :
    Shows ((Style.coloured .darkGrey).paint "└─".toList ++ lineFeed) bottom :=
  (Shows.paint _ (by decide)).append .lineFeed

theorem shows_margin (l : Listing) (n : Nat) :
    Shows ((Style.coloured .darkGrey).paint (Page.number (Page.gutter l) n) ++ " ".toList)
      (margin l.length n) :=
  (Shows.paint _ (Page.introducer_not_mem_number _ n)).append .blank

theorem shows_tokens {ts : List Token} (h : ∀ t ∈ ts, introducer ∉ t.text) :
    Shows (ts.flatMap Page.token) (Token.join ts) :=
  Shows.flatMap fun t ht => Shows.paint _ (h t ht)

theorem shows_row (h : ∀ t ∈ r.tokens, introducer ∉ t.text) :
    Shows (Page.row (Page.gutter l) r) (line l.length r.number r.text) :=
  ((shows_margin l r.number).append (shows_tokens h)).append .lineFeed

theorem number_le_length (h : r ∈ ofText lx code) : r.number ≤ (ofText lx code).length := by
  have hnumber := List.mem_map_of_mem (f := Row.number) h
  rw [map_number_ofText, List.mem_range'_1] at hnumber
  rw [length_ofText]
  omega

theorem shows_listing (hlanguage : introducer ∉ language) (hcode : introducer ∉ code) :
    Shows (Page.listing language (ofText lx code)) (layout language code) := by
  have hrow : ∀ r ∈ ofText lx code, Shows (Page.row (Page.gutter (ofText lx code)) r)
      (line (ofText lx code).length r.number r.text) :=
    fun r hr => shows_row fun t ht hc => hcode (subset_of_mem_tokens hr ht hc)
  have hrows := Shows.flatMap hrow
  -- what is read goes by the lines of the code, not by their rows
  rw [flatMap_line_ofText, length_ofText] at hrows
  have hlisting := ((shows_top hlanguage).append hrows).append shows_bottom
  rwa [← List.append_assoc] at hlisting

theorem showsNext_row {ts us : List Token} {t : Token} (l : Listing) (hr : r.tokens = ts ++ t :: us)
    (h : ∀ t ∈ r.tokens, introducer ∉ t.text) :
    ShowsNext (Page.row (Page.gutter l) r) (margin l.length r.number ++ Token.join ts) t.text
      t.tag.style.pen := by
  rw [hr] at h
  have hbefore : ∀ u ∈ ts, Shows (Page.token u) u.text :=
    fun u hu => Shows.paint _ (h u (by simp [hu]))
  have htoken : ShowsNext (Page.token t) [] t.text t.tag.style.pen :=
    ShowsNext.paint _ (h t (by simp))
  have htokens := ShowsNext.flatMap hbefore htoken us
  rw [← hr, List.append_nil] at htokens
  exact ((shows_margin l r.number).next htokens).append lineFeed

theorem showsNext_listing {rs rs' : Listing} {seen part : Text} {p : Pen}
    (hlanguage : introducer ∉ language) (hl : l = rs ++ r :: rs')
    (h : ∀ q ∈ l, ∀ t ∈ q.tokens, introducer ∉ t.text)
    (hrow : ShowsNext (Page.row (Page.gutter l) r) seen part p) :
    ShowsNext (Page.listing language l)
      (top language ++ ((rs.flatMap fun q => line l.length q.number q.text) ++ seen)) part p := by
  have hbefore : ∀ q ∈ rs,
      Shows (Page.row (Page.gutter l) q) (line l.length q.number q.text) :=
    fun q hq => shows_row (h q (by simp [hl, hq]))
  have hrows := ShowsNext.flatMap hbefore hrow rs'
  rw [← hl] at hrows
  exact (((shows_top hlanguage).next hrows).append _).append _

end Listing

namespace Panel

variable {ss : List Span}

def layout : Panel → Text
  | .prose .title ss => Span.plainText ss ++ lineFeed ++ List.replicate 60 '═' ++ lineFeed
  | .prose .intro ss => "│ ".toList ++ Span.plainText ss ++ lineFeed
  | .prose .heading ss => "▌ ".toList ++ Span.plainText ss ++ lineFeed
  | .prose .paragraph ss => Span.plainText ss ++ lineFeed
  | .prose .summary ss => "Summary\n│ ".toList ++ Span.plainText ss ++ lineFeed
  | .points items => items.flatMap fun ss => "  • ".toList ++ Span.plainText ss ++ lineFeed
  | .code language raw _ => Listing.layout language raw

theorem shows_prose (role : Role) (h : ∀ s ∈ ss, introducer ∉ s.text) :
    Shows (Page.prose role ss) (Panel.prose role ss).layout := by
  have hspans := Span.shows_spans h
  have htext := Span.not_mem_plainText h
  have hbar (s : Style) : Shows (s.paint "│".toList) "│".toList := .paint s (by decide)
  cases role with
  | title =>
    have hrule : introducer ∉ Page.rule := by decide
    exact (((Shows.paint _ htext).append .lineFeed).append (.paint _ hrule)).append .lineFeed
  | intro => exact (((hbar _).append .blank).append hspans).append .lineFeed
  | heading =>
    have hmark : introducer ∉ "▌".toList := by decide
    exact (((Shows.paint _ hmark).append .blank).append (.paint _ htext)).append .lineFeed
  | paragraph => exact hspans.append .lineFeed
  | summary =>
    have hhead : introducer ∉ "Summary".toList := by decide
    exact (((((Shows.paint _ hhead).append .lineFeed).append (hbar _)).append .blank).append
      hspans).append .lineFeed

theorem shows_item (h : ∀ s ∈ ss, introducer ∉ s.text) :
    Shows (Page.item ss) ("  • ".toList ++ Span.plainText ss ++ lineFeed) := by
  have hindent : introducer ∉ "  ".toList := by decide
  have hbullet : introducer ∉ "•".toList := by decide
  exact ((((Shows.plain hindent).append (.paint _ hbullet)).append .blank).append
    (Span.shows_spans h)).append .lineFeed

theorem shows_ofBlock (lx : Lexicon) {b : Block} (htext : introducer ∉ b.text)
    (hlanguage : ∀ w ∈ b.language?, introducer ∉ w) :
    Shows (Page.panel (ofBlock lx b)) (ofBlock lx b).layout := by
  cases b with
  | prose role t =>
    exact shows_prose role fun s hs hc => htext (Span.text_subset_of_mem_ofText hs hc)
  | points t =>
    exact Shows.flatMap fun ss hss => shows_item fun s hs hc =>
      htext (Points.subset_of_mem_items hss s hs hc)
  | code language t => exact Listing.shows_listing (hlanguage language rfl) htext

end Panel

namespace View

variable {lx : Lexicon} {raw : Text} {panels : List Panel} {paragraphs : List (List Span)}

def layout : View → Text
  | .structured panels => panels.flatMap fun p => p.layout ++ lineFeed
  | .unstructured paragraphs =>
    paragraphs.flatMap fun ss => Span.plainText ss ++ lineFeed ++ lineFeed

def length : View → Nat
  | .structured panels => panels.length
  | .unstructured paragraphs => paragraphs.length

def take (n : Nat) : View → View
  | .structured panels => .structured (panels.take n)
  | .unstructured paragraphs => .unstructured (paragraphs.take n)

theorem take_length (v : View) : v.take v.length = v := by
  cases v <;> simp [take, length]

theorem isPrefix_render_take (v : View) (n : Nat) : (v.take n).render <+: v.render := by
  cases v with
  | structured panels => exact List.IsPrefix.flatMap (List.take_prefix n panels) _
  | unstructured paragraphs => exact List.IsPrefix.flatMap (List.take_prefix n paragraphs) _

theorem shows_structured (h : ∀ p ∈ panels, Shows (Page.panel p) p.layout) :
    Shows (structured panels).render (structured panels).layout :=
  Shows.flatMap fun p hp => (h p hp).append .lineFeed

theorem shows_unstructured (h : ∀ ss ∈ paragraphs, ∀ s ∈ ss, introducer ∉ s.text) :
    Shows (unstructured paragraphs).render (unstructured paragraphs).layout :=
  Shows.flatMap fun ss hss => ((Span.shows_spans (h ss hss)).append .lineFeed).append .lineFeed

theorem shows_panel (hraw : introducer ∉ raw) (hv : ofText lx raw = .structured panels) {p : Panel}
    (hp : p ∈ panels) : Shows (Page.panel p) p.layout := by
  rw [(ofText_eq_structured_iff.1 hv).2] at hp
  obtain ⟨b, hb, rfl⟩ := List.mem_map.1 hp
  exact Panel.shows_ofBlock lx (Lesson.not_mem_text (by decide) hraw hb)
    (Lesson.not_mem_language (by decide) hraw hb)

theorem shows_take (lx : Lexicon) (hraw : introducer ∉ raw) (n : Nat) :
    Shows ((ofText lx raw).take n).render ((ofText lx raw).take n).layout := by
  cases hv : ofText lx raw with
  | structured panels =>
    exact shows_structured fun p hp => shows_panel hraw hv (List.mem_of_mem_take hp)
  | unstructured paragraphs =>
    apply shows_unstructured
    intro ss hss s hs hc
    have hsplit : ss ∈ Paragraph.split raw := by
      rw [← (ofText_eq_unstructured_iff.1 hv).2]
      exact List.mem_of_mem_take hss
    exact hraw (Paragraph.subset_of_mem_split hsplit s hs hc)

theorem shows_render (lx : Lexicon) (hraw : introducer ∉ raw) :
    Shows (ofText lx raw).render (ofText lx raw).layout := by
  have h := shows_take lx hraw (ofText lx raw).length
  rwa [take_length] at h

theorem showsNext_structured {ps : List Panel} {q : Panel} {seen part : Text} {p : Pen}
    (hps : ∀ p ∈ ps, Shows (Page.panel p) p.layout) (hq : ShowsNext (Page.panel q) seen part p)
    (qs : List Panel) :
    ShowsNext (structured (ps ++ q :: qs)).render ((structured ps).layout ++ seen) part p :=
  ShowsNext.flatMap (fun p hp => (hps p hp).append .lineFeed) (hq.append _) qs

theorem showsNext_token {ps qs : List Panel} {language code : Text}
    {l rs rs' : Listing} {r : Listing.Row} {ts us : List Token} {t : Token}
    (hraw : introducer ∉ raw)
    (hv : ofText lx raw = .structured (ps ++ .code language code l :: qs))
    (hl : l = rs ++ r :: rs') (hr : r.tokens = ts ++ t :: us) :
    ShowsNext (ofText lx raw).render
      ((structured ps).layout ++ (Listing.top language ++
        ((rs.flatMap fun q => Listing.line l.length q.number q.text) ++
          (Listing.margin l.length r.number ++ Token.join ts))))
      t.text t.tag.style.pen := by
  have hpanel : Panel.code language code l ∈ ps ++ .code language code l :: qs := by simp
  obtain ⟨hblock, hrows⟩ := block_of_mem hv hpanel
  have hlanguage : introducer ∉ language :=
    Lesson.not_mem_language (by decide) hraw hblock language rfl
  have hcode : introducer ∉ code := Lesson.not_mem_text (by decide) hraw hblock
  have htokens : ∀ q ∈ l, ∀ t ∈ q.tokens, introducer ∉ t.text := by
    rw [hrows]
    exact fun q hq t ht hc => hcode (Listing.subset_of_mem_tokens hq ht hc)
  have hrow := Listing.showsNext_row l hr (htokens r (by simp [hl]))
  have hlisting : ShowsNext (Page.panel (.code language code l)) _ t.text t.tag.style.pen :=
    Listing.showsNext_listing hlanguage hl htokens hrow
  rw [hv]
  exact showsNext_structured (fun p hp => shows_panel hraw hv (List.mem_append_left _ hp))
    hlisting qs

/-- Rendering adds looks and nothing else: what is read is the layout, each token of a listing has
the looks of its own tag, and no part leaves any looks behind. -/
theorem render_shows_layout (lx : Lexicon) (h : introducer ∉ raw) :
    let v := ofText lx raw
    Terminal.visible v.render = v.layout ∧
      (∀ ps language code l qs, v = .structured (ps ++ .code language code l :: qs) →
        l.map Listing.Row.text = code.lines ∧
        ∀ rs r rs', l = rs ++ r :: rs' →
          (Listing.margin l.length r.number).length = max 2 (Nat.toDigits 10 l.length).length + 1 ∧
          ∀ ts t us, r.tokens = ts ++ t :: us →
            ShowsNext v.render
              ((structured ps).layout ++ (Listing.top language ++
                ((rs.flatMap fun q => Listing.line l.length q.number q.text) ++
                  (Listing.margin l.length r.number ++ Token.join ts))))
              t.text t.tag.style.pen) ∧
      (∀ n, (v.take n).render <+: v.render ∧ Terminal.penAfter (v.take n).render = {}) ∧
      Terminal.penAfter v.render = {} := by
  intro v
  refine ⟨(shows_render lx h).visible_eq, ?_, ?_, (shows_render lx h).penAfter_eq⟩
  · intro ps language code l qs hv
    obtain ⟨-, hlisting⟩ := block_of_mem hv (List.mem_append_right _ List.mem_cons_self)
    refine ⟨by rw [hlisting, Listing.map_text_ofText], fun rs r rs' hl => ⟨?_, ?_⟩⟩
    · have hr : r ∈ l := by simp [hl]
      rw [hlisting] at hr ⊢
      exact Listing.length_margin (Listing.number_le_length hr)
    · exact fun ts t us hr => showsNext_token h hv hl hr
  · exact fun n => ⟨isPrefix_render_take v n, (shows_take lx h n).penAfter_eq⟩

def sampleScript : Text :=
  "##TITLE## Loops\n##CODE##\n```js\nfor (;;) go()\n// done\n```\n##POINTS##\n- **for**: counted"

def samplePanels : List Panel :=
  [.prose .title [.plain "Loops"],
    .code "js" "for (;;) go()\n// done"
      [⟨1, [⟨"for", .keyword⟩, ⟨" (;;) ", .plain⟩, ⟨"go", .call⟩, ⟨"()", .plain⟩]⟩,
        ⟨2, [⟨"// done", .comment⟩]⟩],
    .points [[.emphasized "for", .plain ": counted"]]]

theorem render_shows_layout_sampleScript :
    introducer ∉ sampleScript ∧
      Terminal.visible (ofText .javascript sampleScript).render =
        "Loops\n".toList ++ Page.rule ++
          "\n\n┌─ js \n 1 for (;;) go()\n 2 // done\n└─\n\n  • for: counted\n\n".toList ∧
      ShowsNext (ofText .javascript sampleScript).render
        ("Loops\n".toList ++ Page.rule ++ "\n\n┌─ js \n 1 for (;;) ".toList) "go".toList
        { colour := some 11 } ∧
      Terminal.penAfter (ofText .javascript sampleScript).render = {} := by
  have hraw : introducer ∉ sampleScript := by decide
  have hv : ofText .javascript sampleScript = .structured samplePanels := by decide +kernel
  obtain ⟨hvisible, htoken, -, hpen⟩ := render_shows_layout .javascript hraw
  refine ⟨hraw, ?_, ?_, hpen⟩
  · rw [hvisible, hv]
    decide +kernel
  · obtain ⟨-, hrow⟩ := htoken [.prose .title [.plain "Loops".toList]] _ _ _ _ hv
    exact (hrow [] _ _ rfl).2 [_, _] _ _ rfl

end View

end LessonText
