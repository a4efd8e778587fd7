import LessonText.Proofs.Storage.References
import LessonText.Proofs.Text.Mapping

namespace LessonText.Expansion

variable {e : Environment} {account : Option Text} {t u name : Text} {p : Part} {ps : List Part}

inductive Part.StandsFor (e : Environment) : Part → Text → Prop
  | character {c : Char} : StandsFor e (.character c) [c]
  | dollars : StandsFor e .dollars ['$']
  | value {p : Part} {name v : Text} {f : Option Text} (hr : p.Refers name f)
      (hv : e.get? name = some v) : StandsFor e p v
  | fallback {p : Part} {name v : Text} (hr : p.Refers name (some v))
      (hv : e.get? name = none) : StandsFor e p v

def Part.IsUnset (e : Environment) (p : Part) : Prop :=
  ∃ name, p.Refers name none ∧ e.get? name = none

theorem Part.Refers.value?_eq {f : Option Text} (h : p.Refers name f) :
    p.piece.value? e = (e.get? name).or f := by
  rw [h.piece_eq, Piece.value?]

theorem standsFor_iff : p.StandsFor e u ↔ p.piece.value? e = some u := by
  constructor
  · rintro (_ | _ | ⟨hr, hv⟩ | ⟨hr, hv⟩)
    · rfl
    · rfl
    · rw [hr.value?_eq, hv, Option.some_or]
    · rw [hr.value?_eq, hv, Option.none_or]
  · intro h
    have refers {n : Text} {f : Option Text} (hr : p.Refers n f) : p.StandsFor e u := by
      rw [hr.value?_eq, Option.or_eq_some_iff] at h
      rcases h with hv | ⟨hv, rfl⟩
      · exact .value hr hv
      · exact .fallback hr hv
    cases p with
    | character c =>
      cases h
      exact .character
    | dollars =>
      cases h
      exact .dollars
    | bare n => exact refers .bare
    | braced inner =>
      obtain ⟨n, f, hr⟩ := exists_refers_braced inner
      exact refers hr

theorem isUnset_iff : p.IsUnset e ↔ p.piece.value? e = none := by
  constructor
  · rintro ⟨n, hr, hv⟩
    rw [hr.value?_eq, hv, Option.none_or]
  · intro h
    rcases hp : p.piece with ⟨c⟩ | ⟨n, f⟩
    · simp [hp, Piece.value?] at h
    · rw [hp, Piece.value?, Option.or_eq_none_iff] at h
      obtain ⟨hv, rfl⟩ := h
      exact ⟨n, refers_iff.2 hp, hv⟩

def Replaces (e : Environment) (t u : Text) : Prop :=
  ∃ ps us, Divides t ps ∧ List.Forall₂ (Part.StandsFor e) ps us ∧ u = us.flatten

def LacksValue (e : Environment) (t : Text) : Prop :=
  ∃ ps, Divides t ps ∧ ∃ p ∈ ps, p.IsUnset e

theorem mapM_pieces_eq_some_iff (h : Divides t ps) {us : List Text} :
    (pieces t).mapM (Piece.value? e) = some us ↔ List.Forall₂ (Part.StandsFor e) ps us := by
  rw [h.pieces_eq, Text.mapM_eq_some_iff, List.forall₂_map_left_iff]
  exact ⟨.imp fun _ _ => standsFor_iff.2, .imp fun _ _ => standsFor_iff.1⟩

theorem replaced?_eq_some_iff : replaced? e t = some u ↔ Replaces e t u := by
  rw [replaced?, Option.map_eq_some_iff, Replaces]
  constructor
  · rintro ⟨us, hus, rfl⟩
    obtain ⟨ps, hps⟩ := exists_divides t
    exact ⟨ps, us, hps, (mapM_pieces_eq_some_iff hps).1 hus, rfl⟩
  · rintro ⟨ps, us, hps, hus, rfl⟩
    exact ⟨us, (mapM_pieces_eq_some_iff hps).2 hus, rfl⟩

theorem replaced?_eq_none_iff : replaced? e t = none ↔ LacksValue e t := by
  have hpieces (ps : List Part) (hps : Divides t ps) :
      replaced? e t = none ↔ ∃ p ∈ ps, p.IsUnset e := by
    rw [replaced?, Option.map_eq_none_iff, hps.pieces_eq, Text.mapM_eq_none_iff]
    simp only [List.mem_map, exists_exists_and_eq_and, isUnset_iff]
  constructor
  · intro h
    obtain ⟨ps, hps⟩ := exists_divides t
    exact ⟨ps, hps, (hpieces ps hps).1 h⟩
  · rintro ⟨ps, hps, hp⟩
    exact (hpieces ps hps).2 hp

/-- What becomes of a path. It stays as it is if a variable has no value. Otherwise its parts are
replaced, and then the tilde, if the path itself begins with one. -/
inductive Expands (e : Environment) (account : Option Text) (t : Text) : Text → Prop
  | kept (h : LacksValue e t) : Expands e account t t
  | home {r h : Text} (hr : Replaces e t ('~' :: r)) (ht : t.head? = some '~')
      (hs : r = [] ∨ r.head? = some '/') (hh : home? e account = some h) :
      Expands e account t (h ++ r)
  | replaced {u : Text} (hu : Replaces e t u)
      (hs : ∀ r, t.head? = some '~' → u = '~' :: r → (r = [] ∨ r.head? = some '/') →
        home? e account = none) : Expands e account t u

theorem tilde_home {r h : Text} (hs : r = [] ∨ r.head? = some '/')
    (hh : home? e account = some h) :
    tilde e account ('~' :: r) = h ++ r := by
  rw [← List.isEmpty_iff] at hs
  rw [tilde, if_pos hs, hh, Option.getD_some]

theorem tilde_eq_self
    (h : ∀ r, u = '~' :: r → (r = [] ∨ r.head? = some '/') → home? e account = none) :
    tilde e account u = u := by
  unfold tilde
  split
  next r =>
    split
    next hs =>
      rw [List.isEmpty_iff] at hs
      rw [h r rfl hs]
      rfl
    next => rfl
  next => rfl

theorem path_of_replaces (h : Replaces e t u) :
    path e account t = if t.head? = some '~' then tilde e account u else u := by
  rw [path, replaced?_eq_some_iff.2 h]

theorem Expands.path_eq (h : Expands e account t u) : path e account t = u := by
  cases h with
  | kept h => rw [path, replaced?_eq_none_iff.2 h]
  | home hr ht hs hh => rw [path_of_replaces hr, if_pos ht, tilde_home hs hh]
  | replaced hu hs =>
    rw [path_of_replaces hu]
    split
    next ht => exact tilde_eq_self fun r => hs r ht
    next => rfl

theorem expands_path (e : Environment) (account : Option Text) (t : Text) :
    Expands e account t (path e account t) := by
  cases h : replaced? e t with
  | none =>
    rw [path, h]
    exact .kept (replaced?_eq_none_iff.1 h)
  | some u =>
    have hu := replaced?_eq_some_iff.1 h
    rw [path_of_replaces hu]
    split
    case isFalse ht => exact .replaced hu fun r h => absurd h ht
    case isTrue ht =>
      by_cases hhome : ∃ r v, u = '~' :: r ∧ (r = [] ∨ r.head? = some '/') ∧
          home? e account = some v
      · obtain ⟨r, v, rfl, hs, hv⟩ := hhome
        rw [tilde_home hs hv]
        exact .home hu ht hs hv
      · have hnone : ∀ r, u = '~' :: r → (r = [] ∨ r.head? = some '/') →
            home? e account = none := by
          intro r hr hs
          rw [Option.eq_none_iff_forall_ne_some]
          exact fun v hv => hhome ⟨r, v, hr, hs, hv⟩
        rw [tilde_eq_self hnone]
        exact .replaced hu fun r _ => hnone r

theorem expands_iff : Expands e account t u ↔ u = path e account t := by
  constructor
  · intro h
    exact h.path_eq.symm
  · rintro rfl
    exact expands_path e account t

theorem piecesFrom_plain (h : '$' ∉ t) : piecesFrom .plain t = t.map .literal := by
  induction t with
  | nil => rfl
  | cons c t ih =>
    rw [List.mem_cons, not_or] at h
    rw [piecesFrom, if_neg (Ne.symm h.1), ih h.2, List.map_cons]

theorem mapM_value?_literal (e : Environment) (t : Text) :
    (t.map Piece.literal).mapM (Piece.value? e) = some (t.map fun c => [c]) := by
  rw [List.mapM_map]
  exact List.mapM_pure

theorem replaced?_eq_self (e : Environment) (h : '$' ∉ t) : replaced? e t = some t := by
  rw [replaced?, pieces, piecesFrom_plain h, mapM_value?_literal, Option.map_some]
  simp [← List.flatMap_def]

theorem path_eq_self (e : Environment) (account : Option Text) (hdollar : '$' ∉ t)
    (htilde : t.head? ≠ some '~') :
    path e account t = t := by
  rw [path, replaced?_eq_self e hdollar]
  exact if_neg htilde

end LessonText.Expansion
